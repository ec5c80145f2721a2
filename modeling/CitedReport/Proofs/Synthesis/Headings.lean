import CitedReport.Synthesis.Sections
import CitedReport.Proofs.Chars.Fold
import CitedReport.Proofs.Chars.Lines
import CitedReport.Proofs.Citation.Carried

/-!
# Headings over sources

A heading over sources or references is a line of a few hash signs and a title, but the blanks in it
and behind it may be line feeds, so that it need not end on the line on which it begins. Here such a
heading is a value with its parts (`SourcesHeading`), apart from how it is read. The reader finds
one wherever one stands and nowhere else (`exists_heading_of_after?`,
`SourcesHeading.Heads.after?_ne_none`), and a report is split at the last one
(`LastHeading.exists_split`).

What keeps a heading from reaching into a later section is that it has no hash signs but its first
characters (`SourcesHeading.exists_append_of_hash`).
-/

namespace CitedReport.Synthesis

open Chars
open Citation (LineEnds)

/-! ## The parts of a heading -/

/-- A heading over sources with its parts as they are written. -/
structure SourcesHeading where
  /-- The number of its hash signs. -/
  level : Nat
  /-- The blanks in front of the title. -/
  gap : List Char
  /-- The title. -/
  title : List Char
  /-- What stands between the title and the blanks at the end. -/
  mark : List Char := []
  /-- The blanks at the end. -/
  blanks : List Char := []

namespace SourcesHeading

/-- The heading without its hash signs. -/
def tail (h : SourcesHeading) : List Char := h.gap ++ (h.title ++ (h.mark ++ h.blanks))

/-- The heading as it is written. -/
def text (h : SourcesHeading) : List Char := List.replicate h.level '#' ++ h.tail

/-- The parts are those of a heading over sources. -/
structure WellFormed (h : SourcesHeading) : Prop where
  /-- There are one to three hash signs. -/
  level : 1 ≤ h.level ∧ h.level ≤ 3
  /-- Blanks may stand in front of the title. -/
  gap : ∀ c ∈ h.gap, isBlank c = true
  /-- The title is one of two words, in any letter case. -/
  title : h.title.map fold = "sources".toList ∨ h.title.map fold = "references".toList
  /-- Behind it there may be a colon, with blanks before it. -/
  mark : h.mark = [] ∨ ∃ gap, (∀ c ∈ gap, isBlank c = true) ∧ h.mark = gap ++ [':']
  /-- Nothing else but blanks is there. -/
  blanks : ∀ c ∈ h.blanks, isBlank c = true

/-- The heading stands at the beginning of a text, and a line ends behind it. -/
def Heads (h : SourcesHeading) (cs : List Char) : Prop :=
  h.WellFormed ∧ ∃ after, cs = h.text ++ after ∧ LineEnds after

variable {h : SourcesHeading}

/-- A title begins with a letter. -/
theorem WellFormed.exists_title_eq (hw : h.WellFormed) :
    ∃ c cs, h.title = c :: cs ∧ (fold c = 's' ∨ fold c = 'r') := by
  cases htitle : h.title with
  | nil =>
    have hnil := hw.title
    rw [htitle, List.map_nil] at hnil
    rcases hnil with hnil | hnil
    · exact absurd hnil (by decide)
    · exact absurd hnil (by decide)
  | cons c cs =>
    have hwords := hw.title
    rw [htitle, List.map_cons] at hwords
    refine ⟨c, cs, rfl, hwords.imp (fun heq => ?_) fun heq => ?_⟩
    · exact (List.cons.inj heq).1
    · exact (List.cons.inj heq).1

/-- The plainest heading over sources. -/
theorem wellFormed_plain {level : Nat} (hlevel : 1 ≤ level ∧ level ≤ 3) :
    WellFormed ⟨level, [' '], "Sources".toList, [], []⟩ := by
  have hgap : ∀ c ∈ [' '], isBlank c = true := List.all_eq_true.1 (by decide)
  have htitle : "Sources".toList.map fold = "sources".toList := by decide +kernel
  exact ⟨hlevel, hgap, .inl htitle, .inl rfl, by simp⟩

/-- A heading has no hash signs but its first characters. -/
theorem WellFormed.hash_not_mem (hw : h.WellFormed) : '#' ∉ h.tail := by
  have hblank : ∀ {cs : List Char}, (∀ c ∈ cs, isBlank c = true) → '#' ∉ cs := fun hcs hmem =>
    absurd (hcs '#' hmem) (by decide)
  have htitle : '#' ∉ h.title := by
    intro hmem
    have hfold : fold '#' ∈ h.title.map fold := List.mem_map_of_mem hmem
    rcases hw.title with heq | heq
    · exact absurd (heq ▸ hfold) (by decide)
    · exact absurd (heq ▸ hfold) (by decide)
  have hmark : '#' ∉ h.mark := by
    rcases hw.mark with hnil | ⟨gap, hgap, heq⟩
    · simp [hnil]
    · rw [heq, List.mem_append, not_or]
      exact ⟨hblank hgap, by decide⟩
  simp only [tail, List.mem_append, not_or]
  exact ⟨hblank hw.gap, htitle, hmark, hblank hw.blanks⟩

/-- So it ends in front of every line behind it that begins with one. -/
theorem exists_append_of_hash {after front rest : List Char} (hw : h.WellFormed)
    (heq : h.text ++ after = front ++ '#' :: rest) (hne : front ≠ []) (hfront : LineBegins front) :
    ∃ middle, front = h.text ++ middle ∧ after = middle ++ '#' :: rest := by
  obtain ⟨line, rfl⟩ := hfront.eq_nil_or_concat.resolve_left hne
  -- no line feed in a heading has a hash sign behind it
  have hafter : ∀ {u}, line ++ '\n' :: '#' :: u ≠ h.text := by
    intro u hu
    rw [text] at hu
    rcases List.append_eq_append_iff.1 hu with ⟨xs, hsigns, hxs⟩ | ⟨xs, -, hxs⟩
    · -- the hash signs do not go on behind a line feed
      cases xs with
      | nil =>
        rw [List.nil_append] at hxs
        exact hw.hash_not_mem (hxs ▸ by simp)
      | cons c xs =>
        obtain rfl := (List.cons.inj hxs).1
        have hmem : '\n' ∈ List.replicate h.level '#' := by simp [hsigns]
        exact absurd (List.eq_of_mem_replicate hmem) (by decide)
    · exact hw.hash_not_mem (by simp [hxs])
  rcases List.append_eq_append_iff.1 heq with ⟨middle, hfront, hafter⟩ | ⟨xs, htext, hxs⟩
  · exact ⟨middle, hfront, hafter⟩
  · cases xs with
    | nil => exact ⟨[], by rw [htext, List.append_nil, List.append_nil], hxs.symm⟩
    | cons c xs =>
      obtain rfl := (List.cons.inj hxs).1
      rw [List.append_assoc, List.singleton_append] at htext
      exact absurd htext.symm hafter

/-- A heading begins with a hash sign. -/
theorem Heads.exists_cons {cs : List Char} (hheads : h.Heads cs) : ∃ rest, cs = '#' :: rest := by
  obtain ⟨hw, after, rfl, -⟩ := hheads
  obtain ⟨n, hn⟩ : ∃ n, h.level = n + 1 := ⟨h.level - 1, by have := hw.level; omega⟩
  exact ⟨_, by rw [text, hn, List.replicate_succ, List.cons_append, List.cons_append]⟩

/-- More lines may follow. -/
theorem Heads.append_newline {cs : List Char} (hheads : h.Heads cs) : h.Heads (cs ++ ['\n']) := by
  obtain ⟨hw, after, rfl, hafter⟩ := hheads
  refine ⟨hw, after ++ ['\n'], List.append_assoc .., ?_⟩
  cases after with
  | nil => exact fun c hc => (Option.some.inj hc).symm
  | cons c after => exact hafter

/-- But for the blanks at its end, a heading ends in the last letter of its title or in a colon. -/
theorem WellFormed.endsInText (hw : h.WellFormed) :
    EndsInText (text { h with blanks := [] }) := by
  have htext : text { h with blanks := [] }
      = (List.replicate h.level '#' ++ h.gap) ++ (h.title ++ h.mark) := by
    simp [text, tail]
  rw [htext]
  refine EndsInText.append_left ?_ _
  rcases hw.mark with hnil | ⟨gap, -, hmark⟩
  · rw [hnil, List.append_nil]
    have hlast : ∃ front, h.title.map fold = front ++ ['s'] := by
      rcases hw.title with heq | heq
      · exact ⟨"source".toList, heq.trans (by decide +kernel)⟩
      · exact ⟨"reference".toList, heq.trans (by decide +kernel)⟩
    obtain ⟨front, hfront⟩ := hlast
    obtain ⟨title, last, htitle, -, hfold⟩ := List.map_eq_append_iff.1 hfront
    obtain ⟨c, rfl, hc⟩ := List.map_eq_singleton_iff.1 hfold
    exact ⟨title, c, htitle, isBlank_eq_false_of_fold (by rw [hc]; decide)⟩
  · exact ⟨h.title ++ gap, ':', by rw [hmark, List.append_assoc], by decide⟩

/-- A heading that stands in front of blanks stands at the beginning of the text in front of
them. -/
theorem WellFormed.exists_heads_of_blanks {cs blanks after : List Char} (hw : h.WellFormed)
    (heq : h.text ++ after = cs ++ blanks) (hafter : LineEnds after) (hcs : EndsInText cs)
    (hblanks : ∀ c ∈ blanks, isBlank c = true) : ∃ g : SourcesHeading, g.Heads cs := by
  rcases List.append_eq_append_iff.1 heq with ⟨xs, hxs, hback⟩ | ⟨xs, htext, hback⟩
  · refine ⟨h, hw, xs, hxs, fun c hc => hafter c ?_⟩
    rw [hback, List.head?_append, hc]
    rfl
  · -- the heading ends in some of the blanks, and is as well a heading without its own
    have hown : h.text = text { h with blanks := [] } ++ h.blanks := by simp [text, tail]
    have hxs : ∀ c ∈ xs, isBlank c = true := fun c hc =>
      hblanks c (hback ▸ List.mem_append_left after hc)
    have hsame : cs = text { h with blanks := [] } := by
      calc cs = trimEnd (cs ++ xs) := by rw [trimEnd_append_blanks hxs, trimEnd_eq_self hcs]
        _ = trimEnd (text { h with blanks := [] } ++ h.blanks) := by rw [← htext, hown]
        _ = _ := by rw [trimEnd_append_blanks hw.blanks, trimEnd_eq_self hw.endsInText]
    have hwithout : WellFormed { h with blanks := [] } :=
      ⟨hw.level, hw.gap, hw.title, hw.mark, by simp⟩
    refine ⟨{ h with blanks := [] }, hwithout, [], ?_, by simp [LineEnds]⟩
    rw [List.append_nil, hsame]

end SourcesHeading

/-! ## Reading a heading -/

/-- The end of a line is found behind blanks. -/
theorem exists_blanks_of_toLineEnd? {cs after : List Char} (h : toLineEnd? cs = some after) :
    ∃ blanks, cs = blanks ++ after ∧ (∀ c ∈ blanks, isBlank c = true) ∧ LineEnds after := by
  have hcs : cs.takeWhile isBlank ++ cs.dropWhile isBlank = cs := List.takeWhile_append_dropWhile
  have hblank : ∀ c ∈ cs.takeWhile isBlank, isBlank c = true := fun c => List.mem_takeWhile_imp
  unfold toLineEnd? at h
  split at h
  · next hrest =>
    obtain rfl := Option.some.inj h
    rw [hrest, List.append_nil] at hcs
    exact ⟨cs, by rw [List.append_nil], hcs ▸ hblank, fun c hc => by simp at hc⟩
  · obtain ⟨⟨front, back⟩, hsplit, rfl⟩ := Option.map_eq_some_iff.1 h
    have hrun := eq_append_of_splitLast? hsplit
    refine ⟨front, ?_, fun c hc => hblank c ?_, fun c hc => (Option.some.inj hc).symm⟩
    · conv_lhs => rw [← hcs, hrun]
      simp
    · rw [hrun]
      simp [hc]

/-- It is found behind all blanks. -/
theorem toLineEnd?_ne_none {blanks after : List Char} (hblanks : ∀ c ∈ blanks, isBlank c = true)
    (hafter : LineEnds after) : toLineEnd? (blanks ++ after) ≠ none := by
  unfold toLineEnd?
  split
  · simp
  · next hrest =>
    cases after with
    | nil =>
      have hnil : (blanks ++ []).dropWhile isBlank = [] := by
        rw [List.append_nil]
        exact List.dropWhile_eq_nil_iff.2 hblanks
      exact absurd hnil hrest
    | cons c after =>
      obtain rfl : c = '\n' := hafter c rfl
      -- the line feed is one of the blanks in front of the rest
      have hmem : ['\n'] <:+: (blanks ++ '\n' :: after).takeWhile isBlank := by
        rw [List.takeWhile_append_of_pos hblanks, List.takeWhile_cons_of_pos (by decide)]
        exact ⟨blanks, after.takeWhile isBlank, by simp⟩
      obtain ⟨r, hr⟩ := exists_splitLast?_eq hmem
      rw [hr]
      simp

/-- What a heading ends with, after its title. -/
theorem exists_mark_of_closeHeading? {cs after : List Char} (h : closeHeading? cs = some after) :
    ∃ mark blanks, cs = mark ++ (blanks ++ after) ∧
      (mark = [] ∨ ∃ gap, (∀ c ∈ gap, isBlank c = true) ∧ mark = gap ++ [':']) ∧
      (∀ c ∈ blanks, isBlank c = true) ∧ LineEnds after := by
  unfold closeHeading? at h
  rcases Option.or_eq_some_iff.1 h with hcolon | ⟨-, hplain⟩
  · split at hcolon
    · next rest hrest =>
      obtain ⟨blanks, rfl, hblanks, hafter⟩ := exists_blanks_of_toLineEnd? hcolon
      refine ⟨cs.takeWhile isBlank ++ [':'], blanks, ?_, .inr ⟨_, ?_, rfl⟩, hblanks, hafter⟩
      · have hcs : cs.takeWhile isBlank ++ cs.dropWhile isBlank = cs :=
          List.takeWhile_append_dropWhile
        rw [hrest] at hcs
        rw [List.append_assoc, List.singleton_append, hcs]
      · exact fun c => List.mem_takeWhile_imp
    · cases hcolon
  · obtain ⟨blanks, rfl, hblanks, hafter⟩ := exists_blanks_of_toLineEnd? hplain
    exact ⟨[], blanks, rfl, .inl rfl, hblanks, hafter⟩

/-- A heading is closed by a colon, if there is one, and blanks up to the end of its line. -/
theorem closeHeading?_ne_none {mark blanks after : List Char}
    (hmark : mark = [] ∨ ∃ gap, (∀ c ∈ gap, isBlank c = true) ∧ mark = gap ++ [':'])
    (hblanks : ∀ c ∈ blanks, isBlank c = true) (hafter : LineEnds after) :
    closeHeading? (mark ++ (blanks ++ after)) ≠ none := by
  have hend := toLineEnd?_ne_none hblanks hafter
  unfold closeHeading?
  rw [Ne, Option.or_eq_none_iff, not_and_or]
  rcases hmark with rfl | ⟨gap, hgap, rfl⟩
  · exact .inr hend
  · have hcolon : (gap ++ [':'] ++ (blanks ++ after)).dropWhile isBlank
        = ':' :: (blanks ++ after) := by
      rw [List.append_assoc]
      exact dropWhile_append_stop hgap fun c hc => by
        obtain rfl := Option.some.inj hc
        decide
    rw [hcolon]
    exact .inl hend

/-- What is read as a heading is one. -/
theorem exists_heading_of_after? {cs after : List Char} (h : afterSourcesHeading? cs = some after) :
    ∃ g : SourcesHeading, g.WellFormed ∧ cs = g.text ++ after ∧ LineEnds after := by
  unfold afterSourcesHeading? at h
  simp only at h
  split at h
  · next hlevel =>
    obtain ⟨rest, hword, hclose⟩ := Option.bind_eq_some_iff.1 h
    obtain ⟨mark, blanks, hrest, hmark, hblanks, hafter⟩ := exists_mark_of_closeHeading? hclose
    -- the hash signs, the blanks and the title, as the reader takes them
    set signs := cs.takeWhile (· == '#') with hsigns
    set gap := (cs.drop signs.length).takeWhile isBlank with hgap
    have hreplicate : signs = List.replicate signs.length '#' :=
      List.eq_replicate_of_mem fun c hc => by simpa using List.mem_takeWhile_imp hc
    have hfront : cs = signs ++ cs.drop signs.length := by
      obtain ⟨ys, hys⟩ : signs <+: cs := List.takeWhile_prefix _
      rw [← hys, List.drop_left]
    have hback : cs.drop signs.length = gap ++ trimStart (cs.drop signs.length) :=
      List.takeWhile_append_dropWhile.symm
    obtain ⟨title, htitle, hfold⟩ : ∃ title, trimStart (cs.drop signs.length) = title ++ rest ∧
        (title.map fold = "sources".toList ∨ title.map fold = "references".toList) := by
      rcases Option.or_eq_some_iff.1 hword with hword | ⟨-, hword⟩
      · obtain ⟨title, htitle, hfold⟩ := afterFolded?_eq_some_iff.1 hword
        exact ⟨title, htitle, .inl hfold⟩
      · obtain ⟨title, htitle, hfold⟩ := afterFolded?_eq_some_iff.1 hword
        exact ⟨title, htitle, .inr hfold⟩
    refine ⟨⟨signs.length, gap, title, mark, blanks⟩,
      ⟨hlevel, fun c => List.mem_takeWhile_imp, hfold, hmark, hblanks⟩, ?_, hafter⟩
    calc cs = signs ++ (gap ++ (title ++ rest)) := by rw [← htitle, ← hback, ← hfront]
      _ = _ := by
        rw [hrest, SourcesHeading.text, SourcesHeading.tail, ← hreplicate]
        simp only [List.append_assoc]
  · cases h

/-- The title is read up to its end. -/
theorem SourcesHeading.WellFormed.after_title {h : SourcesHeading} (hw : h.WellFormed)
    (rest : List Char) :
    (afterFolded? "sources".toList (h.title ++ rest)).or
      (afterFolded? "references".toList (h.title ++ rest)) = some rest := by
  have hread : ∀ {phrase}, h.title.map fold = phrase →
      afterFolded? phrase (h.title ++ rest) = some rest :=
    fun heq => afterFolded?_eq_some_iff.2 ⟨h.title, rfl, heq⟩
  rcases hw.title with hsources | hreferences
  · rw [hread hsources, Option.some_or]
  · -- the two words differ in their first letter
    obtain ⟨c, word, htitle, -⟩ := hw.exists_title_eq
    have hr : fold c = 'r' := by
      rw [htitle, List.map_cons] at hreferences
      exact (List.cons.inj hreferences).1
    have hnone : afterFolded? "sources".toList (h.title ++ rest) = none := by
      rw [htitle]
      exact if_neg (by rw [hr]; decide)
    rw [hnone, hread hreferences, Option.none_or]

/-- Every heading is read as one. -/
theorem SourcesHeading.Heads.after?_ne_none {h : SourcesHeading} {cs : List Char}
    (hheads : h.Heads cs) : afterSourcesHeading? cs ≠ none := by
  obtain ⟨hw, after, rfl, hafter⟩ := hheads
  obtain ⟨c, word, htitle, hfold⟩ := hw.exists_title_eq
  have hc : isBlank c = false := isBlank_eq_false_of_fold (by
    rcases hfold with hs | hr
    · rw [hs]; decide
    · rw [hr]; decide)
  have htail : h.tail ++ after = h.gap ++ (h.title ++ (h.mark ++ (h.blanks ++ after))) := by
    simp only [tail, List.append_assoc]
  -- the hash signs and the blanks end where the reader stops taking them
  have hstop : ∀ d, (h.tail ++ after).head? = some d → (d == '#') = false := by
    intro d hd
    have hmem : d ∈ h.tail := by
      rw [List.head?_append_of_ne_nil] at hd
      · exact List.mem_of_head? hd
      · simp [tail, htitle]
    rw [beq_eq_false_iff_ne]
    rintro rfl
    exact hw.hash_not_mem hmem
  have hsigns : (h.text ++ after).takeWhile (· == '#') = List.replicate h.level '#' := by
    rw [text, List.append_assoc]
    exact takeWhile_append_stop (fun d hd => by simp [List.eq_of_mem_replicate hd]) hstop
  have hdrop : trimStart ((h.text ++ after).drop h.level)
      = h.title ++ (h.mark ++ (h.blanks ++ after)) := by
    rw [text, List.append_assoc, List.drop_left' List.length_replicate, htail, trimStart]
    refine dropWhile_append_stop hw.gap fun d hd => ?_
    rw [htitle] at hd
    obtain rfl := Option.some.inj hd
    exact hc
  unfold afterSourcesHeading?
  simp only [hsigns, List.length_replicate, if_pos hw.level, hdrop, hw.after_title]
  exact closeHeading?_ne_none hw.mark hw.blanks hafter

/-! ## Splitting at the last heading -/

/-- Whether a line begins behind a text in front of which one begins or not. -/
def startsLine (atStart : Bool) (before : List Char) : Bool :=
  (before.getLast?.map (· == '\n')).getD atStart

/-- Nothing in front leaves things as they are. -/
theorem startsLine_nil (atStart : Bool) : startsLine atStart [] = atStart := rfl

/-- Whether a line starts depends on the last character in front. -/
theorem startsLine_cons (atStart : Bool) (c : Char) (before : List Char) :
    startsLine atStart (c :: before) = startsLine (c == '\n') before := by
  unfold startsLine
  cases before with
  | nil => rfl
  | cons d before =>
    rw [List.getLast?_cons_cons, List.getLast?_cons]
    rfl

/-- A line starts at the beginning of a text and behind line feeds. -/
theorem startsLine_true_iff {before : List Char} :
    startsLine true before = true ↔ LineBegins before := by
  unfold startsLine LineBegins
  cases before.getLast? with
  | none => simp
  | some c => simp

/-- A text is not split when no heading stands where a line begins. -/
theorem splitAtSources?_eq_none_iff {atStart : Bool} {cs : List Char} :
    splitAtSources? atStart cs = none ↔
      ∀ before here, cs = before ++ here → startsLine atStart before = true →
        afterSourcesHeading? here = none := by
  induction cs generalizing atStart with
  | nil =>
    refine iff_of_true rfl fun before here h _ => ?_
    rw [(List.append_eq_nil_iff.1 h.symm).2]
    rfl
  | cons c cs ih =>
    rw [splitAtSources?]
    constructor
    · intro h before here hcs hstart
      split at h
      · cases h
      · next hlater =>
        -- the place is here or further on
        cases before with
        | nil =>
          obtain rfl : c :: cs = here := hcs
          rw [startsLine_nil] at hstart
          rw [if_pos hstart] at h
          exact Option.map_eq_none_iff.1 h
        | cons d before =>
          obtain ⟨rfl, hrest⟩ := List.cons.inj hcs
          rw [startsLine_cons] at hstart
          exact ih.1 hlater before here hrest hstart
    · intro h
      have hlater : splitAtSources? (c == '\n') cs = none :=
        ih.2 fun before here hcs hstart =>
          h (c :: before) here (by rw [hcs]; rfl) (by rw [startsLine_cons]; exact hstart)
      rw [hlater]
      simp only
      split
      · next hstart => rw [h [] (c :: cs) rfl hstart, Option.map_none]
      · rfl

/-- The last place where a heading is read: a line begins there, and none is read where a later line
begins. -/
structure LastRead (atStart : Bool) (cs before here after : List Char) : Prop where
  /-- It is a place in the text. -/
  cs_eq : cs = before ++ here
  /-- A line begins there. -/
  starts : startsLine atStart before = true
  /-- A heading is read there. -/
  read : afterSourcesHeading? here = some after
  /-- None is read further behind. -/
  last : ∀ more later, here = more ++ later → more ≠ [] →
    startsLine atStart (before ++ more) = true → afterSourcesHeading? later = none

/-- Where a text is split, the last heading is read. -/
theorem exists_lastRead_of_split {atStart : Bool} {cs before after : List Char}
    (h : splitAtSources? atStart cs = some (before, after)) :
    ∃ here, LastRead atStart cs before here after := by
  induction cs generalizing atStart before with
  | nil => cases h
  | cons c cs ih =>
    rw [splitAtSources?] at h
    split at h
    · next r hlater =>
      -- a heading further on is the last one
      obtain ⟨rfl, rfl⟩ := Prod.mk.inj (Option.some.inj h)
      obtain ⟨here, hcs, hstart, hread, hlast⟩ := ih hlater
      refine ⟨here, by rw [hcs]; rfl, by rw [startsLine_cons]; exact hstart, hread, ?_⟩
      intro more later heq hne hmore
      rw [List.cons_append, startsLine_cons] at hmore
      exact hlast more later heq hne hmore
    · next hlater =>
      -- no heading is further on, so that one here is the last
      split at h
      · next hstart =>
        obtain ⟨rest, hread, heq⟩ := Option.map_eq_some_iff.1 h
        obtain ⟨rfl, rfl⟩ := Prod.mk.inj heq
        refine ⟨c :: cs, rfl, hstart, hread, fun more later heq hne hmore => ?_⟩
        cases more with
        | nil => exact absurd rfl hne
        | cons d more =>
          obtain ⟨rfl, hrest⟩ := List.cons.inj heq
          rw [List.nil_append, startsLine_cons] at hmore
          exact splitAtSources?_eq_none_iff.1 hlater more later hrest hmore
      · cases h

/-- A text is split where a line ends. -/
theorem lineEnds_of_split {atStart : Bool} {cs before after : List Char}
    (h : splitAtSources? atStart cs = some (before, after)) : LineEnds after := by
  obtain ⟨here, hlast⟩ := exists_lastRead_of_split h
  obtain ⟨-, -, -, hafter⟩ := exists_heading_of_after? hlast.read
  exact hafter

/-- There is only one such place. -/
theorem LastRead.unique {atStart : Bool} {cs before before' here here' after after' : List Char}
    (h : LastRead atStart cs before here after) (h' : LastRead atStart cs before' here' after') :
    before = before' ∧ after = after' := by
  -- of two places one would be further behind
  have hnil : ∀ {b b' r r' a a' more}, LastRead atStart cs b r a → LastRead atStart cs b' r' a' →
      b' = b ++ more → r = more ++ r' → more = [] := by
    intro b b' r r' a a' more hb hb' hfront hback
    by_contra hne
    have hnone := hb.last more r' hback hne (hfront ▸ hb'.starts)
    rw [hb'.read] at hnone
    cases hnone
  have hsame : before = before' ∧ here = here' := by
    rcases List.append_eq_append_iff.1 (h.cs_eq.symm.trans h'.cs_eq) with
      ⟨more, hfront, hback⟩ | ⟨more, hfront, hback⟩
    · obtain rfl := hnil h h' hfront hback
      exact ⟨by simp [hfront], by simp [hback]⟩
    · obtain rfl := hnil h' h hfront hback
      exact ⟨by simp [hfront], by simp [hback]⟩
  obtain ⟨rfl, rfl⟩ := hsame
  exact ⟨rfl, Option.some.inj (h.read.symm.trans h'.read)⟩

/-- A text is split where the last heading is read. -/
theorem splitAtSources?_eq_some_iff {atStart : Bool} {cs before after : List Char} :
    splitAtSources? atStart cs = some (before, after) ↔
      ∃ here, LastRead atStart cs before here after := by
  refine ⟨exists_lastRead_of_split, ?_⟩
  rintro ⟨here, h⟩
  cases hsplit : splitAtSources? atStart cs with
  | none =>
    have hnone := splitAtSources?_eq_none_iff.1 hsplit before here h.cs_eq h.starts
    rw [h.read] at hnone
    cases hnone
  | some r =>
    obtain ⟨there, h'⟩ := exists_lastRead_of_split hsplit
    obtain ⟨rfl, rfl⟩ := h.unique h'
    rfl

/-- The last heading over sources of a report: it stands where a line begins, and none stands where
a later line begins. -/
structure LastHeading (report before : List Char) (h : SourcesHeading) (after : List Char) :
    Prop where
  /-- The heading stands between the two parts of the report. -/
  report_eq : report = before ++ (h.text ++ after)
  /-- A line begins with it. -/
  lineBegins : LineBegins before
  /-- It is a heading, and a line ends behind it. -/
  heads : h.Heads (h.text ++ after)
  /-- There is none further behind. -/
  last : ∀ more later, h.text ++ after = more ++ later → more ≠ [] → LineBegins (before ++ more) →
    ∀ g : SourcesHeading, ¬ g.Heads later

variable {report before after : List Char} {h : SourcesHeading}

/-- A report is split at its last heading. -/
theorem LastHeading.exists_split (hlast : LastHeading report before h after) :
    ∃ g : SourcesHeading, ∃ rest, g.WellFormed ∧ h.text ++ after = g.text ++ rest ∧
      splitAtSources? true report = some (before, rest) := by
  obtain ⟨rest, hread⟩ := Option.ne_none_iff_exists'.1 hlast.heads.after?_ne_none
  obtain ⟨g, hg, htext, -⟩ := exists_heading_of_after? hread
  refine ⟨g, rest, hg, htext, splitAtSources?_eq_some_iff.2 ⟨h.text ++ after, hlast.report_eq,
    startsLine_true_iff.2 hlast.lineBegins, hread, fun more later heq hne hmore => ?_⟩⟩
  cases hlater : afterSourcesHeading? later with
  | none => rfl
  | some back =>
    obtain ⟨g', hg', hlater, hback⟩ := exists_heading_of_after? hlater
    exact absurd ⟨hg', back, hlater, hback⟩
      (hlast.last more later heq hne (startsLine_true_iff.1 hmore) g')

/-- Where a report is split its last heading stands. -/
theorem lastHeading_of_split {rest : List Char}
    (hsplit : splitAtSources? true report = some (before, rest)) (hw : h.WellFormed)
    (hreport : report = before ++ (h.text ++ after)) (hafter : LineEnds after) :
    LastHeading report before h after := by
  obtain ⟨here, hhere, hstart, -, hnone⟩ := splitAtSources?_eq_some_iff.1 hsplit
  obtain rfl : h.text ++ after = here := List.append_cancel_left (hreport.symm.trans hhere)
  refine ⟨hreport, startsLine_true_iff.1 hstart, ⟨hw, after, rfl, hafter⟩, ?_⟩
  intro more later heq hne hmore g hg
  exact hg.after?_ne_none (hnone more later heq hne (startsLine_true_iff.2 hmore))

end CitedReport.Synthesis
