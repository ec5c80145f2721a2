import CitedReport.Proofs.Citation.Number
import CitedReport.Proofs.Synthesis.Sections
import CitedReport.Proofs.Synthesis.Tail

/-!
# The findings in the fallback report

When no report can be written, the findings are shown in its place, each under a heading with its
number. The text with the findings passes through the same function as a report does, which takes
its last section of sources out before the generated one takes its place. The headings over the
findings are no headings over sources, and a heading in the notice at the beginning costs no finding
(`InSections.behind`). But a finding may have a heading over sources itself, and what stands
behind the last such heading of the findings is lost up to the next section. So all findings but
one are shown as they are (`findings_in_fallbackReport`), and there are findings of which one is not
(`not_all_findings_in_fallbackReport`).
-/

namespace CitedReport.Synthesis

open Chars
open Citation (LineEnds indexText isAsciiDigit_of_mem_indexText indexText_ne_nil
  not_mem_indexText)

/-! ## Numbered sections -/

/-- The line with the number of a finding. -/
def sectionTitle (i : Nat) : List Char := "## Findings Section ".toList ++ indexText i

/-- The heading over a finding, with the blank line behind it. -/
def sectionHeading (i : Nat) : List Char := sectionTitle i ++ ['\n', '\n']

/-- Texts in sections that are numbered from `i` on, with a blank line behind each. -/
def numbered : Nat → List (List Char) → List Char
  | _, [] => []
  | i, t :: ts => sectionHeading i ++ (t ++ '\n' :: '\n' :: numbered (i + 1) ts)

/-- Each of these texts stands in a text as it is, in this order and under its own heading, counted
from `i`. The heading begins a line, and a line ends behind the text. -/
inductive InSections : Nat → List (List Char) → List Char → Prop where
  | nil (i : Nat) (text : List Char) : InSections i [] text
  | cons {i : Nat} {t before rest : List Char} {ts : List (List Char)} (hbefore : LineBegins before)
    (hends : t ≠ [] → LineEnds rest) (hrest : InSections (i + 1) ts rest) :
    InSections i (t :: ts) (before ++ (sectionHeading i ++ (t ++ rest)))

/-- More text may stand in front. -/
theorem InSections.append_left {i : Nat} {ts : List (List Char)} {text front : List Char}
    (h : InSections i ts text) (hfront : LineBegins front) : InSections i ts (front ++ text) := by
  cases h with
  | nil => exact .nil i _
  | cons hbefore hends hrest =>
    rw [← List.append_assoc]
    exact .cons (hfront.append hbefore) hends hrest

/-- The title of a section is one line. -/
theorem newline_not_mem_sectionTitle (i : Nat) : '\n' ∉ sectionTitle i := by
  unfold sectionTitle
  rw [List.mem_append, not_or]
  constructor
  · decide +kernel
  · exact not_mem_indexText (by decide) i

/-- It ends in a digit. -/
theorem endsInText_sectionTitle (i : Nat) : EndsInText (sectionTitle i) := by
  have hlast : EndsInText (indexText i) := by
    refine ⟨_, _, (List.dropLast_append_getLast (indexText_ne_nil i)).symm, ?_⟩
    have hdigit := isAsciiDigit_of_mem_indexText (List.getLast_mem (indexText_ne_nil i))
    exact isBlank_eq_false_of_isDigit (isDigit_of_isAsciiDigit hdigit)
  exact hlast.append_left _

/-- It begins with two hash signs and a word that is not over sources. -/
theorem exists_sectionHeading_eq (i : Nat) :
    ∃ rest, sectionHeading i = '#' :: '#' :: ' ' :: 'F' :: rest := by
  have htitle : "## Findings Section ".toList
      = '#' :: '#' :: ' ' :: 'F' :: "indings Section ".toList := by
    decide +kernel
  refine ⟨"indings Section ".toList ++ (indexText i ++ ['\n', '\n']), ?_⟩
  unfold sectionHeading sectionTitle
  rw [htitle]
  simp only [List.cons_append, List.append_assoc]

/-- The heading of the findings is no heading of sources. -/
theorem afterSourcesHeading?_findings (rest : List Char) :
    afterSourcesHeading? ('#' :: '#' :: ' ' :: 'F' :: rest) = none := by
  have hlevel : (('#' :: '#' :: ' ' :: 'F' :: rest).takeWhile (· == '#')).length = 2 := rfl
  have hstart : trimStart (' ' :: 'F' :: rest) = 'F' :: rest :=
    trimStart_append_cons (c := 'F') (by decide) [' '] rest
  have hsources : afterFolded? "sources".toList ('F' :: rest) = none := if_neg (by decide)
  have hreferences : afterFolded? "references".toList ('F' :: rest) = none := if_neg (by decide)
  unfold afterSourcesHeading?
  simp only [hlevel, List.drop_succ_cons, List.drop_zero, hstart, hsources, hreferences]
  rfl

/-- Nor is the heading of a single finding. -/
theorem not_heads_sectionHeading (h : SourcesHeading) (i : Nat) (rest : List Char) :
    ¬ h.Heads (sectionHeading i ++ rest) := by
  intro hheads
  obtain ⟨title, htitle⟩ := exists_sectionHeading_eq i
  refine hheads.after?_ne_none ?_
  rw [htitle]
  exact afterSourcesHeading?_findings (title ++ rest)

/-- No heading over sources begins in the heading over a finding. -/
theorem eq_nil_of_heads_sectionHeading {h : SourcesHeading} {i : Nat} {before xs rest : List Char}
    (heq : sectionHeading i = before ++ xs) (hline : LineBegins before)
    (hheads : h.Heads (xs ++ rest)) : xs = [] := by
  rcases hline.eq_nil_or_concat with rfl | ⟨line, rfl⟩
  · rw [List.nil_append] at heq
    exact absurd (heq ▸ hheads) (not_heads_sectionHeading h i rest)
  · -- only one line feed of the two can be behind the title and in front of a line
    obtain ⟨hashes, hhashes⟩ := hheads.exists_cons
    have hfeed : ∀ {ys}, ys ++ rest = '#' :: hashes → ys ≠ ['\n'] := by
      rintro ys hys rfl
      exact absurd (List.cons.inj hys).1 (by decide)
    have hfeeds : sectionTitle i ++ ['\n', '\n'] = line ++ '\n' :: xs := by
      rw [← sectionHeading, heq, List.append_assoc, List.singleton_append]
    rcases List.append_eq_append_iff.1 hfeeds with ⟨ys, -, hys⟩ | ⟨ys, htitle, hys⟩
    · rcases ys with - | ⟨c, - | ⟨d, ys⟩⟩
      · exact absurd (List.cons.inj hys).2.symm (hfeed hhashes)
      · exact (List.cons.inj (List.cons.inj hys).2).2.symm
      · have hlength := congrArg List.length hys
        simp at hlength
    · cases ys with
      | nil => exact absurd (List.cons.inj hys).2 (hfeed hhashes)
      | cons c ys =>
        obtain rfl : '\n' = c := (List.cons.inj hys).1
        exact absurd (htitle ▸ List.mem_append_right line List.mem_cons_self)
          (newline_not_mem_sectionTitle i)

/-- A line begins behind numbered sections. -/
theorem lineBegins_numbered (i : Nat) (ts : List (List Char)) : LineBegins (numbered i ts) := by
  induction ts generalizing i with
  | nil => exact lineBegins_nil
  | cons t ts ih =>
    have hcons : numbered i (t :: ts)
        = (sectionHeading i ++ (t ++ ['\n'])) ++ ['\n'] ++ numbered (i + 1) ts := by
      simp [numbered]
    rw [hcons]
    exact (lineBegins_concat _).append (ih (i + 1))

/-- Numbered sections begin with a heading at which the text behind sources goes on. -/
theorem exists_numbered_eq (i : Nat) (t : List Char) (ts : List (List Char)) :
    ∃ rest, numbered i (t :: ts) = '#' :: (rest ++ ['\n']) ∧
      beginsSection ('#' :: rest) = true := by
  obtain ⟨title, htitle⟩ := exists_sectionHeading_eq i
  have hback : LineBegins ('\n' :: numbered (i + 1) ts) :=
    (lineBegins_concat []).append (lineBegins_numbered (i + 1) ts)
  obtain ⟨rest, hrest⟩ := hback.eq_nil_or_concat.resolve_left (by simp)
  refine ⟨'#' :: ' ' :: 'F' :: (title ++ (t ++ '\n' :: rest)), ?_, ?_⟩
  · rw [numbered, htitle, hrest]
    simp
  · exact (headingLine_space 2 (c := 'F') (by decide) _).beginsSection (by decide)

/-- The last finding stands behind the others, under its own heading. -/
theorem numbered_concat (i : Nat) (ts : List (List Char)) (t : List Char) :
    numbered i (ts ++ [t])
      = numbered i ts ++ (sectionHeading (i + ts.length) ++ (t ++ ['\n', '\n'])) := by
  induction ts generalizing i with
  | nil => simp [numbered]
  | cons t' ts ih =>
    have hnext : i + (t' :: ts).length = i + 1 + ts.length := by
      rw [List.length_cons]
      omega
    rw [List.cons_append, numbered, numbered, ih, hnext]
    simp

/-- Numbered sections may stand in front of others. -/
theorem InSections.append_numbered {more : List Char} {ts later : List (List Char)} {i : Nat}
    (hmore : InSections (i + ts.length) later more) {front : List Char}
    (hfront : LineBegins front) :
    InSections i (ts ++ later) (front ++ (numbered i ts ++ more)) := by
  induction ts generalizing i front with
  | nil => exact hmore.append_left hfront
  | cons t ts ih =>
    have hnext : i + (t :: ts).length = i + 1 + ts.length := by
      rw [List.length_cons]
      omega
    have hrest := ih (hnext ▸ hmore) (lineBegins_concat ['\n'])
    have hcons : front ++ (numbered i (t :: ts) ++ more)
        = front ++ (sectionHeading i ++ (t ++ (['\n'] ++ ['\n'] ++
            (numbered (i + 1) ts ++ more)))) := by
      simp [numbered]
    rw [hcons]
    exact .cons hfront (fun _ c hc => (Option.some.inj hc).symm) hrest

/-- Where the text behind a section is taken out, what is left of the last text is in its section,
and more sections may follow. -/
theorem InSections.trimEnd_section {more : List Char} {ts later : List (List Char)} {i : Nat}
    (hmore : InSections (i + ts.length + 1) later more) {front : List Char}
    (hfront : LineBegins front) (t : List Char) :
    InSections i (ts ++ trimEnd t :: later)
      (trimEnd (front ++ (numbered i ts ++ (sectionHeading (i + ts.length) ++ t))) ++
        '\n' :: '\n' :: more) := by
  set title := sectionTitle (i + ts.length) with htitle
  have hend : EndsInText (front ++ (numbered i ts ++ title)) :=
    ((endsInText_sectionTitle _).append_left _).append_left front
  by_cases hnil : trimEnd t = []
  · -- the blank line behind the heading is trimmed off, and comes back with what follows
    have hblank : ∀ c ∈ ['\n', '\n'] ++ t, isBlank c = true := by
      intro c hc
      rcases List.mem_append.1 hc with hc | hc
      · have hfeeds : ∀ c ∈ ['\n', '\n'], isBlank c = true := List.all_eq_true.1 (by decide)
        exact hfeeds c hc
      · exact List.rdropWhile_eq_nil_iff.1 hnil c hc
    have hsplit : front ++ (numbered i ts ++ (sectionHeading (i + ts.length) ++ t))
        = (front ++ (numbered i ts ++ title)) ++ (['\n', '\n'] ++ t) := by
      simp [sectionHeading, htitle]
    have hcons : front ++ (numbered i ts ++ title) ++ '\n' :: '\n' :: more
        = front ++ (numbered i ts ++ ([] ++ (sectionHeading (i + ts.length) ++ ([] ++ more)))) := by
      simp [sectionHeading, htitle]
    rw [hsplit, trimEnd_append_blanks hblank, trimEnd_eq_self hend, hnil, hcons]
    exact .append_numbered (.cons lineBegins_nil (absurd rfl) hmore) hfront
  · -- something is left of the text, and it stays behind its heading
    have hsplit : front ++ (numbered i ts ++ (sectionHeading (i + ts.length) ++ t))
        = (front ++ (numbered i ts ++ sectionHeading (i + ts.length))) ++ t := by
      simp
    have hcons : front ++ (numbered i ts ++ sectionHeading (i + ts.length)) ++ trimEnd t ++
          '\n' :: '\n' :: more
        = front ++ (numbered i ts ++ ([] ++ (sectionHeading (i + ts.length) ++ (trimEnd t ++
            (['\n'] ++ ['\n'] ++ more))))) := by
      simp
    rw [hsplit, trimEnd_append_of_ne_nil hnil, hcons]
    have hends : LineEnds (['\n'] ++ ['\n'] ++ more) := fun c hc => (Option.some.inj hc).symm
    have hline := hmore.append_left (lineBegins_concat ['\n'])
    exact .append_numbered (.cons lineBegins_nil (fun _ => hends) hline) hfront

/-! ## A heading over sources among the sections -/

/-- No heading over sources begins with a line feed. -/
theorem SourcesHeading.Heads.ne_newline_cons {h : SourcesHeading} {here : List Char}
    (hheads : h.Heads here) (cs : List Char) : here ≠ '\n' :: cs := by
  rintro rfl
  obtain ⟨hashes, hhashes⟩ := hheads.exists_cons
  exact absurd (List.cons.inj hhashes).1 (by decide)

/-- A heading over sources that stands in a section or behind it stands in its text, or behind the
blank line that ends it. -/
theorem exists_of_heads_section {h : SourcesHeading} {i : Nat} {t rest before here : List Char}
    (heq : sectionHeading i ++ t ++ '\n' :: '\n' :: rest = before ++ here)
    (hline : LineBegins before) (hheads : h.Heads here) :
    (∃ kept lost, t = kept ++ lost ∧ LineBegins kept ∧ lost ≠ [] ∧
      before = sectionHeading i ++ kept ∧ here = lost ++ '\n' :: '\n' :: rest) ∨
    ∃ front, before = sectionHeading i ++ t ++ '\n' :: '\n' :: front ∧ LineBegins front ∧
      rest = front ++ here := by
  have hhash := hheads.ne_newline_cons
  -- the heading stands behind the text of the section or in it
  rcases List.append_eq_append_iff.1 heq with ⟨xs, hbefore, hxs⟩ | ⟨xs, hfront, hxs⟩
  · -- it stands behind the text, and not in the blank line there
    rcases xs with - | ⟨c, - | ⟨d, front⟩⟩
    · exact absurd hxs.symm (hhash _)
    · exact absurd (List.cons.inj hxs).2.symm (hhash _)
    · obtain ⟨rfl, hback⟩ := List.cons.inj hxs
      obtain ⟨rfl, hrest⟩ := List.cons.inj hback
      have hcons : sectionHeading i ++ t ++ '\n' :: '\n' :: front
          = (sectionHeading i ++ t ++ ['\n', '\n']) ++ front := by
        simp
      rw [hbefore, hcons] at hline
      exact .inr ⟨front, hbefore, hline.of_append, hrest⟩
  · left
    rcases List.append_eq_append_iff.1 hfront with ⟨kept, hkept, rfl⟩ | ⟨ys, hheading, rfl⟩
    · refine ⟨kept, xs, rfl, ?_, ?_, hkept, hxs⟩
      · rw [hkept] at hline
        exact hline.of_append
      · rintro rfl
        exact hhash _ hxs
    · -- it stands at the beginning of the text, since no heading over sources is in that heading
      rw [hxs, List.append_assoc] at hheads
      obtain rfl := eq_nil_of_heads_sectionHeading hheading hline hheads
      rw [List.append_nil] at hheading
      rw [List.nil_append] at hxs
      refine ⟨[], t, rfl, lineBegins_nil, ?_, ?_, hxs⟩
      · rintro rfl
        exact hhash _ hxs
      · rw [List.append_nil, hheading]

/-- A heading over sources among numbered sections stands in one of their texts. -/
theorem exists_of_heads_numbered {h : SourcesHeading} {i : Nat} {ts : List (List Char)}
    {before here : List Char} (heq : numbered i ts = before ++ here) (hline : LineBegins before)
    (hheads : h.Heads here) :
    ∃ front kept lost back, ts = front ++ (kept ++ lost) :: back ∧ LineBegins kept ∧ lost ≠ [] ∧
      before = numbered i front ++ (sectionHeading (i + front.length) ++ kept) ∧
      here = lost ++ '\n' :: '\n' :: numbered (i + front.length + 1) back := by
  induction ts generalizing i before with
  | nil =>
    obtain ⟨hashes, hhashes⟩ := hheads.exists_cons
    have hnil := (List.append_eq_nil_iff.1 heq.symm).2
    rw [hhashes] at hnil
    cases hnil
  | cons t ts ih =>
    rw [numbered, ← List.append_assoc] at heq
    rcases exists_of_heads_section heq hline hheads with
      ⟨kept, lost, rfl, hkept, hlost, rfl, rfl⟩ | ⟨front, rfl, hfront, hrest⟩
    · exact ⟨[], kept, lost, ts, rfl, hkept, hlost, rfl, rfl⟩
    · obtain ⟨front, kept, lost, back, rfl, hkept, hlost, rfl, rfl⟩ := ih hrest hfront
      have hnext : i + 1 + front.length = i + (t :: front).length := by
        rw [List.length_cons]
        omega
      refine ⟨t :: front, kept, lost, back, rfl, hkept, hlost, ?_, ?_⟩
      · rw [numbered, ← hnext]
        simp
      · rw [← hnext]

/-- In a text that ends, a heading over sources stands whole in front of what follows the text. -/
theorem exists_heads_of_heads_numbered {h : SourcesHeading} {cs : List Char} {i : Nat}
    {ts : List (List Char)} (hcs : EndsInText cs)
    (hheads : h.Heads (cs ++ '\n' :: '\n' :: numbered i ts)) :
    ∃ g : SourcesHeading, g.Heads cs := by
  have hblank : ∀ c ∈ ['\n', '\n'], isBlank c = true := List.all_eq_true.1 (by decide)
  obtain ⟨hw, after, heq, hafter⟩ := hheads
  cases ts with
  | nil => exact hw.exists_heads_of_blanks heq.symm hafter hcs hblank
  | cons t ts =>
    obtain ⟨rest, hrest, -⟩ := exists_numbered_eq i t ts
    have hsplit : h.text ++ after = (cs ++ ['\n', '\n']) ++ '#' :: (rest ++ ['\n']) := by
      rw [← heq, hrest]
      simp
    have hline : LineBegins (cs ++ ['\n', '\n']) := by
      have hcons : cs ++ ['\n', '\n'] = (cs ++ ['\n']) ++ ['\n'] := by simp
      rw [hcons]
      exact lineBegins_concat _
    obtain ⟨middle, hmiddle, rfl⟩ := SourcesHeading.exists_append_of_hash hw hsplit (by simp) hline
    refine hw.exists_heads_of_blanks hmiddle.symm (fun c hc => hafter c ?_) hcs hblank
    rw [List.head?_append, hc]
    rfl

/-- Numbered sections are there when the blanks at their end are trimmed off. -/
theorem InSections.trimEnd_numbered {i : Nat} {ts : List (List Char)} {front : List Char}
    (hts : ∀ t ∈ ts, trimEnd t = t) (hfront : LineBegins front) (more : List Char) :
    InSections i ts (trimEnd (front ++ numbered i ts) ++ '\n' :: '\n' :: more) := by
  rcases List.eq_nil_or_concat' ts with rfl | ⟨init, last, rfl⟩
  · exact .nil i _
  · have hlast : trimEnd last = last := hts last (by simp)
    have hsections := InSections.trimEnd_section (.nil (i + init.length + 1) more) hfront last
    have hsplit : front ++ numbered i (init ++ [last])
        = (front ++ (numbered i init ++ (sectionHeading (i + init.length) ++ last))) ++
            ['\n', '\n'] := by
      rw [numbered_concat]
      simp
    rw [hlast] at hsections
    rw [hsplit, trimEnd_append_blanks (List.all_eq_true.1 (by decide))]
    exact hsections

variable {report before after : List Char} {g : SourcesHeading}

/-- The sections behind the last sources are there when these are taken out. -/
theorem InSections.behind {i : Nat} {ts : List (List Char)} {front : List Char}
    (hsplit : splitAtSources? true report = some (before, after)) (hg : g.WellFormed)
    (hplace : g.text ++ (after ++ ['\n']) = front ++ numbered i ts) (hne : front ≠ [])
    (hfront : LineBegins front) (hts : ∀ t ∈ ts, trimEnd t = t) (more : List Char) :
    ∃ rest, InSections i ts rest ∧ withoutSources report ++ '\n' :: '\n' :: more
      = trimEnd before ++ '\n' :: '\n' :: rest := by
  -- without a section there is nothing to keep; else the first of them is where the rest begins
  cases ts with
  | nil =>
    unfold withoutSources
    rw [hsplit]
    simp only
    split
    · exact ⟨more, .nil i _, by simp⟩
    · exact ⟨trim (fromSection true after) ++ '\n' :: '\n' :: more, .nil i _, by simp⟩
  | cons t ts =>
    obtain ⟨rest, hrest, hsection⟩ := exists_numbered_eq i t ts
    rw [hrest] at hplace
    obtain ⟨middle, rfl, hafter⟩ := SourcesHeading.exists_append_of_hash hg hplace hne hfront
    have hmiddle : after = middle ++ '#' :: rest := by
      have hcons : after ++ ['\n'] = (middle ++ '#' :: rest) ++ ['\n'] := by simp [hafter]
      exact List.append_cancel_right hcons
    obtain ⟨between, hbetween, hkept⟩ :=
      exists_withoutSources_eq (hmiddle ▸ hsplit) hfront.of_append (by decide) hsection
    have hend : trimEnd (between ++ numbered i (t :: ts)) = between ++ trimEnd ('#' :: rest) := by
      have hfeed : between ++ numbered i (t :: ts) = (between ++ '#' :: rest) ++ ['\n'] := by
        simp [hrest]
      rw [hfeed, trimEnd_append_blanks (List.all_eq_true.1 (by decide)),
        trimEnd_append_cons (by decide), trimEnd_cons (by decide)]
    refine ⟨between ++ trimEnd ('#' :: rest) ++ '\n' :: '\n' :: more, ?_, by simp [hkept]⟩
    rw [← hend]
    exact .trimEnd_numbered hts hbetween more

/-! ## What is shown of the findings -/

/-- What is shown of some texts: all of them as they are, or all but one, which has a heading over
sources and of which is shown what stands in front of it. -/
inductive Shown : List (List Char) → List (List Char) → Prop where
  | whole (ts : List (List Char)) : Shown ts ts
  | cut {ts ts' : List (List Char)} {kept lost : List Char} {h : SourcesHeading}
    (hkept : LineBegins kept) (hlost : h.Heads lost) :
    Shown (ts ++ (kept ++ lost) :: ts') (ts ++ trimEnd kept :: ts')

/-- What a heading begins in a text that ends goes on to the end of the text. -/
theorem endsInText_of_kept {kept lost rest : List Char}
    (hclean : trimEnd (kept ++ lost) = kept ++ lost) (hne : lost ≠ [])
    (hheads : g.Heads (lost ++ rest)) : EndsInText lost := by
  obtain ⟨hashes, hhashes⟩ := hheads.exists_cons
  obtain ⟨c, lost, rfl⟩ := List.exists_cons_of_ne_nil hne
  obtain rfl : c = '#' := (List.cons.inj hhashes).1
  have hlost : trimEnd lost = lost := by
    rw [trimEnd_append_cons (by decide)] at hclean
    exact (List.cons.inj (List.append_cancel_left hclean)).2
  have hcons : trimEnd ('#' :: lost) = '#' :: lost := by rw [trimEnd_cons (by decide), hlost]
  rw [← hcons]
  exact endsInText_trimEnd (by simp [hcons])

/-- Where the last heading over sources of a report stands among numbered sections, what stands
behind it in its section is not shown, and nothing else is left out. -/
theorem exists_shown_of_cut {front xs : List Char} {ts : List (List Char)}
    (hts : ∀ t ∈ ts, trimEnd t = t) (hsplit : splitAtSources? true report = some (before, after))
    (hheads : g.Heads (g.text ++ after ++ ['\n'])) (hbefore : before = front ++ xs)
    (hfront : LineBegins front) (hline : LineBegins xs)
    (hback : numbered 1 ts = xs ++ (g.text ++ after ++ ['\n'])) (more : List Char) :
    ∃ shown, Shown ts shown ∧
      InSections 1 shown (withoutSources report ++ '\n' :: '\n' :: more) := by
  have hg := hheads.1
  obtain ⟨ts, kept, lost, ts', rfl, hkept, hlost, rfl, hhere⟩ :=
    exists_of_heads_numbered hback hline hheads
  have htext : EndsInText lost :=
    endsInText_of_kept (hts (kept ++ lost) (by simp)) hlost (hhere ▸ hheads)
  rw [hhere] at hheads
  obtain ⟨h, hh⟩ := exists_heads_of_heads_numbered htext hheads
  have hsections : g.text ++ (after ++ ['\n'])
      = (lost ++ ['\n'] ++ ['\n']) ++ numbered (1 + ts.length + 1) ts' := by
    rw [← List.append_assoc, hhere]
    simp
  obtain ⟨rest, hrest, heq⟩ := InSections.behind hsplit hg hsections (by simp)
    (lineBegins_concat _) (fun t ht => hts t (by simp [ht])) more
  refine ⟨ts ++ trimEnd kept :: ts', .cut hkept hh, ?_⟩
  rw [heq, hbefore]
  exact .trimEnd_section hrest hfront kept

/-- What is shown of numbered sections at the end of a report when a generated section takes the
place of its last section of sources. -/
theorem exists_shown {front : List Char} {ts : List (List Char)} (hts : ∀ t ∈ ts, trimEnd t = t)
    (hreport : report ++ ['\n'] = (front ++ ['\n']) ++ numbered 1 ts) (more : List Char) :
    ∃ shown, Shown ts shown ∧
      InSections 1 shown (withoutSources report ++ '\n' :: '\n' :: more) := by
  have hfront : LineBegins (front ++ ['\n']) := lineBegins_concat front
  cases hsplit : splitAtSources? true report with
  | none =>
    have hend : withoutSources report = trimEnd ((front ++ ['\n']) ++ numbered 1 ts) := by
      rw [withoutSources, hsplit, ← hreport, trimEnd_append_blanks (List.all_eq_true.1 (by decide))]
    rw [hend]
    exact ⟨ts, .whole ts, .trimEnd_numbered hts hfront more⟩
  | some r =>
    obtain ⟨before, after⟩ := r
    obtain ⟨here, hhere, hline, hread, -⟩ := splitAtSources?_eq_some_iff.1 hsplit
    obtain ⟨g, hg, rfl, hafter⟩ := exists_heading_of_after? hread
    have hbefore : LineBegins before := startsLine_true_iff.1 hline
    have hheads : g.Heads (g.text ++ after ++ ['\n']) :=
      SourcesHeading.Heads.append_newline ⟨hg, after, rfl, hafter⟩
    have hplace : before ++ (g.text ++ after ++ ['\n']) = (front ++ ['\n']) ++ numbered 1 ts := by
      rw [← hreport, hhere]
      simp
    -- a heading in front of the sections costs none of them, one among them cuts one of them
    rcases List.append_eq_append_iff.1 hplace with ⟨xs, hxs, hback⟩ | ⟨xs, hxs, hback⟩
    · rcases eq_or_ne xs [] with rfl | hne
      · rw [List.append_nil] at hxs
        exact exists_shown_of_cut hts hsplit hheads (hxs ▸ (List.append_nil _).symm) hfront
          lineBegins_nil hback.symm more
      · rw [List.append_assoc] at hback
        obtain ⟨rest, hrest, heq⟩ :=
          InSections.behind hsplit hg hback hne (hxs ▸ hfront).of_append hts more
        have hcons : trimEnd before ++ '\n' :: '\n' :: rest
            = (trimEnd before ++ ['\n'] ++ ['\n']) ++ rest := by
          simp
        refine ⟨ts, .whole ts, ?_⟩
        rw [heq, hcons]
        exact hrest.append_left (lineBegins_concat _)
    · exact exists_shown_of_cut hts hsplit hheads hxs hfront (hxs ▸ hbefore).of_append hback more

/-- The findings stand in numbered sections, but for a blank line at the end. -/
theorem toList_findingSections (i : Nat) (findings : List String) :
    (findingSections i findings).toList ++ ['\n']
      = '\n' :: numbered i (findings.map fun f => trim f.toList) := by
  induction findings generalizing i with
  | nil => rfl
  | cons f findings ih =>
    have hindex : (toString i).toList = indexText i := Nat.toList_repr
    have htitle : "\n## Findings Section ".toList = '\n' :: "## Findings Section ".toList := by
      decide +kernel
    have hfeeds : "\n\n".toList = ['\n', '\n'] := by decide +kernel
    have hfeed : "\n".toList = ['\n'] := by decide +kernel
    unfold findingSections numbered sectionHeading sectionTitle Text.trim
    simp only [String.toList_append, String.toList_ofList, List.map_cons, List.append_assoc,
      List.cons_append, List.nil_append, ih, hindex, htitle, hfeeds, hfeed]

/-- What the fallback report says in front of the findings. -/
def fallbackNotice (e : ResearchError) : String :=
  "# Research Findings\n\n> The report could not be written (" ++ e.message ++ "). " ++
    "The consolidated research findings follow unedited.\n"

/-- The notice ends its line. -/
theorem fallbackNotice_concat (e : ResearchError) :
    ∃ front, (fallbackNotice e).toList = front ++ ['\n'] := by
  have hfeed : "The consolidated research findings follow unedited.\n".toList
      = "The consolidated research findings follow unedited.".toList ++ ['\n'] := by
    decide +kernel
  unfold fallbackNotice
  rw [String.toList_append, hfeed, ← List.append_assoc]
  exact ⟨_, rfl⟩

/-- The fallback is the notice and the findings without any section of sources, and the generated
one. -/
theorem toList_fallbackReport (c : ResearchContext) (e : ResearchError) :
    (fallbackReport c e).toList
      = withoutSources (fallbackNotice e ++ findingSections 1 c.findings).toList ++
          '\n' :: '\n' :: (Text.trimEnd (sourcesSection c) ++ "\n").toList := by
  have hfeeds : "\n\n".toList = ['\n', '\n'] := by decide +kernel
  change (replaceSources (fallbackNotice e ++ findingSections 1 c.findings) _).toList = _
  unfold replaceSources
  simp only [String.toList_append, String.toList_ofList, hfeeds, List.append_assoc,
    List.cons_append, List.nil_append]

/-- In the fallback report on a consolidated context every finding stands trimmed as it is, each
under its own heading and in their order, but for at most one, of which what stands in front of a
heading over sources is there. The generated section of sources ends the report. -/
theorem findings_in_fallbackReport (policy : PrunePolicy) (maxSources : Nat) (brief : String)
    (notes : List String) (subject : SubjectType) (e : ResearchError) :
    let c := Consolidation.consolidate policy maxSources brief notes subject
    ∃ shown, Shown (c.findings.map fun f => trim f.toList) shown ∧
      InSections 1 shown (fallbackReport c e).toList ∧
      EndsWith ("\n\n" ++ sourcesSection c) (fallbackReport c e) := by
  intro c
  obtain ⟨front, hfront⟩ := fallbackNotice_concat e
  have hclean : ∀ t ∈ c.findings.map fun f => trim f.toList, trimEnd t = t := by
    intro t ht
    obtain ⟨f, -, rfl⟩ := List.mem_map.1 ht
    exact trimEnd_trim f.toList
  have hreport : (fallbackNotice e ++ findingSections 1 c.findings).toList ++ ['\n']
      = ((front ++ ['\n']) ++ ['\n']) ++ numbered 1 (c.findings.map fun f => trim f.toList) := by
    rw [String.toList_append, hfront, List.append_assoc, toList_findingSections]
    simp
  obtain ⟨shown, hshown, hsections⟩ :=
    exists_shown hclean hreport (Text.trimEnd (sourcesSection c) ++ "\n").toList
  have hclosing : closing c = "\n\n" ++ sourcesSection c :=
    closing_consolidate policy maxSources brief notes subject
  refine ⟨shown, hshown, ?_, hclosing ▸ endsWith_fallbackReport c e⟩
  rw [toList_fallbackReport]
  exact hsections

/-- A note with a heading over sources that are not its own. -/
def rocketsNote : String :=
  "Acme builds rockets.\n\n## Sources\nThe trade press.\n\nIts engines are reused."

/-- The end of a finding can be lost, from its heading over sources on. -/
theorem not_all_findings_in_fallbackReport :
    ¬ ∀ (policy : PrunePolicy) (maxSources : Nat) (brief : String) (notes : List String)
      (subject : SubjectType) (e : ResearchError),
      let c := Consolidation.consolidate policy maxSources brief notes subject
      ∀ f ∈ c.findings, trim f.toList <:+: (fallbackReport c e).toList := by
  intro h
  set c := Consolidation.consolidate .firstSeen 1 "" [rocketsNote] .company with hc
  set e := ResearchError.synthesis .emptyCompletion
  have hfindings : c.findings = [rocketsNote] := by decide +kernel
  have hsources : c.sources = [] := by decide +kernel
  have hrockets : trim rocketsNote.toList <:+: (fallbackReport c e).toList := by
    refine h .firstSeen 1 "" [rocketsNote] .company e rocketsNote ?_
    rw [← hc, hfindings]
    exact List.mem_singleton_self _
  -- the letter with which the last line of the note begins is nowhere in the report
  have hmem : 'I' ∈ (fallbackReport c e).toList := hrockets.subset (by decide +kernel)
  unfold fallbackReport replaceSources sourcesSection at hmem
  rw [hfindings, hsources] at hmem
  unfold findingSections findingSections at hmem
  simp only [String.toList_append, String.toList_ofList] at hmem
  revert hmem
  decide +kernel

end CitedReport.Synthesis
