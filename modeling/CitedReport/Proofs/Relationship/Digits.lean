import CitedReport.Proofs.Chars.Classes
import CitedReport.Proofs.Consolidation.Findings
import CitedReport.Proofs.Relationship.StatusLines

/-!
# Status lines do not depend on citation numbers

The words of a status have no digits. So a text has status lines of the same kinds when its numbers
are others, and when it has other blanks at its end (`Alike`, `kinds_alike`). Renumbering the
citations of a text without taking any out gives such a text (`alike_renumber`), and that is what
consolidation does when nothing is pruned (`flatMap_kinds_findings`).
-/

namespace CitedReport

namespace Chars

/-- A digit does not end a line. -/
theorem ne_newline_of_isDigit {c : Char} (h : isDigit c = true) : c ≠ '\n' := by
  rintro rfl
  exact absurd h (by decide)

/-- A digit can stand inside a word. -/
theorem isWord_of_isDigit {c : Char} (h : isDigit c = true) : isWord c = true := by
  rw [isWord, h, Bool.or_true, Bool.true_or, Bool.true_or]

end Chars

namespace Relationship

open Chars Citation

/-- Nothing but blanks. -/
def Blank (cs : List Char) : Prop := ∀ c ∈ cs, isBlank c = true

/-- Texts that differ in their numbers and in the blanks at their ends. -/
inductive Alike : List Char → List Char → Prop where
  /-- Only blanks are left. -/
  | blanks {cs ds : List Char} (hcs : Blank cs) (hds : Blank ds) : Alike cs ds
  /-- The same character comes first. -/
  | char (c : Char) {cs ds : List Char} (h : Alike cs ds) : Alike (c :: cs) (c :: ds)
  /-- There are digits on both sides. -/
  | digits {xs ys cs ds : List Char} (hxs : IsDigits xs) (hys : IsDigits ys) (h : Alike cs ds) :
    Alike (xs ++ cs) (ys ++ ds)

/-- A text is like itself. -/
theorem Alike.refl (cs : List Char) : Alike cs cs := by
  induction cs with
  | nil => exact .blanks (by simp [Blank]) (by simp [Blank])
  | cons c cs ih => exact .char c ih

/-- Texts that are alike are so with the same text in front. -/
theorem Alike.append_left {cs ds : List Char} (h : Alike cs ds) (front : List Char) :
    Alike (front ++ cs) (front ++ ds) := by
  induction front with
  | nil => exact h
  | cons c front ih => exact .char c ih

/-- A text is like itself without the blanks at its end. -/
theorem alike_trimEnd (cs : List Char) : Alike cs (trimEnd cs) := by
  obtain ⟨blanks, hblanks⟩ := trimEnd_begins cs
  -- what is trimmed off are the blanks at the end
  have hblank : Blank blanks := by
    have htrimmed : blanks = (cs.reverse.takeWhile isBlank).reverse := by
      have hsplit : cs = trimEnd cs ++ (cs.reverse.takeWhile isBlank).reverse := by
        rw [trimEnd, dropEndWhile, ← List.reverse_append, List.takeWhile_append_dropWhile,
          List.reverse_reverse]
      exact List.append_cancel_left (hblanks.trans hsplit)
    intro c hc
    rw [htrimmed, List.mem_reverse] at hc
    exact List.mem_takeWhile_imp hc
  have : Alike (trimEnd cs ++ blanks) (trimEnd cs ++ []) :=
    Alike.append_left (.blanks hblank (by simp [Blank])) (trimEnd cs)
  rwa [hblanks, List.append_nil] at this

/-! ## Reading texts that are alike -/

/-- A phrase without digits that does not end in a blank, or what is left of one. -/
structure Phrase (phrase : List Char) : Prop where
  /-- It has no digits. -/
  noDigit : ∀ c ∈ phrase, isDigit c = false
  /-- It is over, or it ends in text. -/
  ends : phrase = [] ∨ EndsInText phrase

/-- What is left of a phrase is one. -/
theorem Phrase.tail {p : Char} {ps : List Char} (h : Phrase (p :: ps)) : Phrase ps := by
  refine ⟨fun c hc => h.noDigit c (List.mem_cons_of_mem p hc), ?_⟩
  obtain ⟨front, c, hfront, hc⟩ := h.ends.resolve_left (List.cons_ne_nil p ps)
  cases front with
  | nil => exact .inl (List.cons.inj hfront).2
  | cons q front => exact .inr ⟨front, c, (List.cons.inj hfront).2, hc⟩

/-- A phrase without digits that ends in text. -/
theorem Phrase.of_all {phrase : List Char} (h : phrase.all (fun c => !isDigit c) = true)
    (hends : EndsInText phrase) : Phrase phrase :=
  ⟨fun c hc => by simpa using List.all_eq_true.1 h c hc, .inr hends⟩

/-- The words of every kind are a phrase. -/
theorem phrase_words (k : StatusKind) : Phrase k.words := by
  cases k with
  | existing => exact .of_all (by decide) ⟨"existing clien".toList, 't', rfl, by decide⟩
  | past => exact .of_all (by decide) ⟨"past engagemen".toList, 't', rfl, by decide⟩
  | absent => exact .of_all (by decide) ⟨"no prior engagemen".toList, 't', rfl, by decide⟩

/-- The mark of a status is a phrase. -/
theorem phrase_statusMark : Phrase statusMark :=
  .of_all (by decide) ⟨"relationship status".toList, ':', rfl, by decide⟩

/-- Blanks do not begin with a phrase. -/
theorem afterFolded?_of_blank {p : Char} {ps cs : List Char} (h : Phrase (p :: ps))
    (hcs : Blank cs) : afterFolded? (p :: ps) cs = none := by
  cases hread : afterFolded? (p :: ps) cs with
  | none => rfl
  | some rest =>
    exfalso
    obtain ⟨front, rfl, hfront⟩ := afterFolded?_eq_some_iff.1 hread
    have hfold : front.map fold = front := by
      conv_rhs => rw [← List.map_id front]
      exact List.map_congr_left fun c hc => fold_of_isBlank (hcs c (List.mem_append_left _ hc))
    -- the last character of the phrase is text, but there are only blanks
    obtain ⟨before, c, hlast, hc⟩ := h.ends.resolve_left (List.cons_ne_nil p ps)
    have hmem : c ∈ front := by
      rw [← hfold, hfront, hlast]
      simp
    rw [hcs c (List.mem_append_left _ hmem)] at hc
    cases hc

/-- A text that begins with a digit does not begin with a phrase. -/
theorem afterFolded?_of_isDigit {p c : Char} {ps cs : List Char} (h : Phrase (p :: ps))
    (hc : isDigit c = true) : afterFolded? (p :: ps) (c :: cs) = none := by
  rw [afterFolded?, if_neg]
  rw [fold_of_isDigit hc]
  rintro rfl
  rw [h.noDigit _ List.mem_cons_self] at hc
  cases hc

/-- A phrase is read in texts that are alike, or in none of them. -/
theorem Alike.afterFolded? {cs ds : List Char} (h : Alike cs ds) {phrase : List Char}
    (hp : Phrase phrase) :
    Option.Rel Alike (afterFolded? phrase cs) (afterFolded? phrase ds) := by
  -- where the texts differ there are blanks to the end, or digits, and no phrase goes on there
  induction h generalizing phrase with
  | blanks hcs hds =>
    cases phrase with
    | nil => exact .some (.blanks hcs hds)
    | cons p ps =>
      rw [afterFolded?_of_blank hp hcs, afterFolded?_of_blank hp hds]
      exact .none
  | char c h ih =>
    cases phrase with
    | nil => exact .some (.char c h)
    | cons p ps =>
      rw [Chars.afterFolded?, Chars.afterFolded?]
      split
      · exact ih hp.tail
      · exact .none
  | digits hxs hys h _ =>
    cases phrase with
    | nil => exact .some (.digits hxs hys h)
    | cons p ps =>
      obtain ⟨x, xs, rfl⟩ := List.exists_cons_of_ne_nil hxs.1
      obtain ⟨y, ys, rfl⟩ := List.exists_cons_of_ne_nil hys.1
      rw [List.cons_append, List.cons_append,
        afterFolded?_of_isDigit hp (hxs.2 x List.mem_cons_self),
        afterFolded?_of_isDigit hp (hys.2 y List.mem_cons_self)]
      exact .none

/-- A word goes on in texts that are alike, or in none of them. -/
theorem Alike.wordNext {cs ds : List Char} (h : Alike cs ds) : wordNext cs = wordNext ds := by
  have hblank : ∀ {cs : List Char}, Blank cs → Chars.wordNext cs = false := by
    intro cs hcs
    cases cs with
    | nil => rfl
    | cons c cs => exact isWord_eq_false_of_isBlank (hcs c List.mem_cons_self)
  have hdigit : ∀ {xs cs : List Char}, IsDigits xs → Chars.wordNext (xs ++ cs) = true := by
    intro xs cs hxs
    obtain ⟨x, xs, rfl⟩ := List.exists_cons_of_ne_nil hxs.1
    exact isWord_of_isDigit (hxs.2 x List.mem_cons_self)
  cases h with
  | blanks hcs hds => rw [hblank hcs, hblank hds]
  | char c h => rfl
  | digits hxs hys h => rw [hdigit hxs, hdigit hys]

/-- Texts that are alike are so behind the blanks in front. -/
theorem Alike.trimStart {cs ds : List Char} (h : Alike cs ds) :
    Alike (trimStart cs) (trimStart ds) := by
  have hdigit : ∀ {xs cs : List Char}, IsDigits xs → Chars.trimStart (xs ++ cs) = xs ++ cs := by
    intro xs cs hxs
    obtain ⟨x, xs, rfl⟩ := List.exists_cons_of_ne_nil hxs.1
    have := isBlank_eq_false_of_isDigit (hxs.2 x List.mem_cons_self)
    rw [Chars.trimStart, List.cons_append, List.dropWhile_cons, if_neg (by simp [this])]
  induction h with
  | blanks hcs hds =>
    rw [Chars.trimStart, Chars.trimStart, List.dropWhile_eq_nil_iff.2 hcs,
      List.dropWhile_eq_nil_iff.2 hds]
    exact .refl []
  | char c h ih =>
    rw [Chars.trimStart, Chars.trimStart, List.dropWhile_cons, List.dropWhile_cons]
    split
    · exact ih
    · exact .char c h
  | digits hxs hys h _ =>
    rw [hdigit hxs, hdigit hys]
    exact .digits hxs hys h

/-- A status at the beginning is the same in texts that are alike. -/
theorem readAlike_alike : ReadAlike Alike where
  phrase h hphrase := by
    refine h.afterFolded? ?_
    rcases List.mem_cons.1 hphrase with rfl | hwords
    · exact phrase_statusMark
    · obtain ⟨k, -, rfl⟩ := List.mem_map.1 hwords
      exact phrase_words k
  wordNext h := h.wordNext
  trimStart h := h.trimStart

/-- No status begins where its mark does not. -/
theorem readStatus?_eq_none {cs : List Char} (h : afterFolded? statusMark cs = none) :
    readStatus? cs = none := by
  rw [readStatus?, h]
  rfl

/-- Digits have no part in the last status of a line. -/
theorem lastStatus?_digits {xs : List Char} (hxs : ∀ c ∈ xs, isDigit c = true) (cs : List Char) :
    lastStatus? (xs ++ cs) = lastStatus? cs := by
  induction xs with
  | nil => rfl
  | cons x xs ih =>
    have hx := hxs x List.mem_cons_self
    have hmark : readStatus? (x :: (xs ++ cs)) = none :=
      readStatus?_eq_none (afterFolded?_of_isDigit phrase_statusMark hx)
    rw [List.cons_append, lastStatus?, if_neg (ne_newline_of_isDigit hx), hmark, Option.or_none,
      ih fun c hc => hxs c (List.mem_cons_of_mem x hc)]

/-- There is no status in blanks. -/
theorem lastStatus?_of_blank {cs : List Char} (h : Blank cs) : lastStatus? cs = none := by
  induction cs with
  | nil => rfl
  | cons c cs ih =>
    have hmark : readStatus? (c :: cs) = none :=
      readStatus?_eq_none (afterFolded?_of_blank phrase_statusMark h)
    rw [lastStatus?, hmark, ih fun d hd => h d (List.mem_cons_of_mem c hd)]
    exact ite_self none

/-- Texts that are alike have the same status last on their first lines. -/
theorem Alike.lastStatus? {cs ds : List Char} (h : Alike cs ds) :
    Option.Rel (fun r s => r.1 = s.1 ∧ Alike r.2 s.2) (lastStatus? cs) (lastStatus? ds) := by
  induction h with
  | blanks hcs hds =>
    rw [lastStatus?_of_blank hcs, lastStatus?_of_blank hds]
    exact .none
  | char c h ih =>
    rw [Relationship.lastStatus?, Relationship.lastStatus?]
    split
    · exact .none
    · -- a status that begins later on the line goes before one that begins here
      rcases eq_none_or_exists_of_rel ih with ⟨hcs, hds⟩ | ⟨r, s, hcs, hds, hrs⟩
      · rw [hcs, hds, Option.none_or, Option.none_or]
        exact readAlike_alike.readStatus? (.char c h)
      · rw [hcs, hds]
        exact .some hrs
  | digits hxs hys _ ih => rwa [lastStatus?_digits hxs.2, lastStatus?_digits hys.2]

/-- Texts that are alike are so from the next line on. -/
theorem Alike.nextLine {cs ds : List Char} (h : Alike cs ds) :
    Alike (nextLine cs) (nextLine ds) := by
  have hblank : ∀ {cs : List Char}, Blank cs → Blank (Relationship.nextLine cs) := fun hcs c hc =>
    hcs c (List.dropWhile_subset _ (List.drop_subset _ _ hc))
  have hdigit : ∀ {xs : List Char}, (∀ c ∈ xs, isDigit c = true) → ∀ cs,
      Relationship.nextLine (xs ++ cs) = Relationship.nextLine cs := by
    intro xs hxs cs
    induction xs with
    | nil => rfl
    | cons x xs ih =>
      have hnewline := ne_newline_of_isDigit (hxs x List.mem_cons_self)
      rw [List.cons_append, nextLine_cons, if_neg hnewline,
        ih fun c hc => hxs c (List.mem_cons_of_mem x hc)]
  induction h with
  | blanks hcs hds => exact .blanks (hblank hcs) (hblank hds)
  | char c h ih =>
    rw [nextLine_cons, nextLine_cons]
    split
    · exact h
    · exact ih
  | digits hxs hys _ ih => rwa [hdigit hxs.2, hdigit hys.2]

/-- Texts that are alike have status lines of the same kinds. -/
theorem kinds_alike {cs ds : List Char} (h : Alike cs ds) : kinds cs = kinds ds := by
  -- both texts get shorter line by line, so the induction is on their length
  induction hn : cs.length + ds.length using Nat.strong_induction_on generalizing cs ds with
  | _ n ih =>
    have hcs := length_nextLine_le cs
    have hds := length_nextLine_le ds
    have hstatus := h.lastStatus?
    rcases eq_none_or_exists_of_rel hstatus with ⟨hcs', hds'⟩ | ⟨r, s, hcs', hds', hkind, hrest⟩
    · rw [kinds_of_none hcs', kinds_of_none hds']
      by_cases hempty : cs.length + ds.length = 0
      · obtain ⟨rfl, rfl⟩ : cs = [] ∧ ds = [] := by simpa using hempty
        rfl
      · exact ih _ (by omega) h.nextLine rfl
    · rw [kinds_of_some hcs', kinds_of_some hds', hkind]
      obtain ⟨before, hne, rfl⟩ := exists_append_of_lastStatus? hcs'
      obtain ⟨before', -, rfl⟩ := exists_append_of_lastStatus? hds'
      have hpos := List.length_pos_iff.2 hne
      have hr := length_nextLine_le r.2
      have hs := length_nextLine_le s.2
      simp only [List.length_append] at hn
      rw [ih _ (by omega) hrest.nextLine rfl]

/-! ## Renumbering -/

section

variable {resolve : Nat → Resolution} (hkeep : ∀ k, resolve k ≠ .drop)

include hkeep

/-- The further numbers of a marker get other digits. -/
theorem Alike.moreText {more : List (List Char × List Char)}
    (hmore : ∀ t ∈ more, IsSeparator t.1 ∧ IsDigits t.2) {cs ds : List Char} (h : Alike cs ds) :
    Alike (Marker.moreText more ++ cs)
      (Marker.moreText (more.filterMap fun t =>
        (resolveDigits resolve t.2).map fun d => (t.1, d)) ++ ds) := by
  induction more with
  | nil => exact h
  | cons t more ih =>
    obtain ⟨new, hnew⟩ := exists_resolveDigits_eq hkeep t.2
    have ht := (hmore t List.mem_cons_self).2
    have hrest := ih fun u hu => hmore u (List.mem_cons_of_mem t hu)
    have hfilter :
        (t :: more).filterMap (fun t => (resolveDigits resolve t.2).map fun d => (t.1, d))
          = (t.1, new) :: more.filterMap fun t =>
            (resolveDigits resolve t.2).map fun d => (t.1, d) :=
      List.filterMap_cons_some (by rw [hnew]; rfl)
    rw [hfilter, Marker.moreText_cons, Marker.moreText_cons, List.append_assoc, List.append_assoc,
      List.append_assoc, List.append_assoc]
    exact (Alike.digits ht (isDigits_of_resolveDigits ht hnew) hrest).append_left t.1

/-- A marker gets other digits. -/
theorem Alike.marker {m : Marker} (hm : m.WellFormed) {cs ds : List Char} (h : Alike cs ds) :
    Alike (m.text ++ cs) (m.replacement resolve ++ ds) := by
  obtain ⟨new, hnew⟩ := exists_resolveDigits_eq hkeep m.first
  have hsurvivors : m.survivors resolve = ([], new) :: m.more.filterMap fun t =>
      (resolveDigits resolve t.2).map fun d => (t.1, d) := by
    rw [Marker.survivors, Marker.tokens]
    exact List.filterMap_cons_some (by rw [hnew]; rfl)
  rw [Marker.replacement_eq_bracketed, hsurvivors, bracketed, Marker.text_eq, Marker.text_eq]
  simp only [List.cons_append, List.append_assoc]
  exact .char '[' (.digits hm.first (isDigits_of_resolveDigits hm.first hnew)
    (Alike.moreText hkeep hm.more (.char ']' h)))

/-- When no number is taken out, renumbering puts other markers in the place of markers. -/
theorem renumberFrom_eq_of_keep (ps : List Piece) (out : List Char) :
    renumberFrom resolve out ps = out.reverse ++ ps.flatMap fun
      | .char c => [c]
      | .marker m => m.replacement resolve := by
  induction ps generalizing out with
  | nil => simp [renumberFrom]
  | cons p ps ih =>
    cases p with
    | char c =>
      rw [renumberFrom, ih]
      simp
    | marker m =>
      rw [renumberFrom_marker_of_ne_nil (m.survivors_ne_nil hkeep), ih]
      simp

/-- When no number is taken out, the renumbered text is like the text before. -/
theorem alike_renumber (cs : List Char) : Alike cs (renumber resolve cs) := by
  rw [renumber, renumberFrom_eq_of_keep hkeep, List.reverse_nil, List.nil_append]
  have hscan := scan_pieces cs
  generalize pieces cs = ps at hscan ⊢
  induction hscan with
  | nil => exact .refl []
  | marker hm _ ih => exact Alike.marker hkeep hm ih
  | char _ _ ih => exact .char _ ih

end

/-! ## The findings -/

open Consolidation

/-- When nothing is pruned, the findings have status lines of the same kinds as the bodies of their
notes. -/
theorem flatMap_kinds_findings {policy : PrunePolicy} {maxSources : Nat} {brief : String}
    {notes : List String} {subject : SubjectType}
    (hpruned : (consolidate policy maxSources brief notes subject).pruned = 0) :
    (consolidate policy maxSources brief notes subject).findings.flatMap (fun f => kinds f.toList)
      = (notes.map fun note => kinds (Note.parse note).body.toList).flatten := by
  have hkeep : ∀ note ∈ notes, ∀ k, Consolidation.resolve
      (consolidate policy maxSources brief notes subject).sources (Note.parse note) k ≠ .drop :=
    fun note hnote => resolve_ne_drop policy maxSources brief subject hnote hpruned
  have hfindings : (consolidate policy maxSources brief notes subject).findings = notes.map
      fun note => Consolidation.finding (consolidate policy maxSources brief notes subject).sources
        (Note.parse note) :=
    findings_eq_map policy maxSources brief notes subject
  generalize (consolidate policy maxSources brief notes subject).sources = sources
    at hkeep hfindings
  have hkinds : ∀ note ∈ notes, kinds (Consolidation.finding sources (Note.parse note)).toList
      = kinds (Note.parse note).body.toList := by
    intro note hnote
    rw [Consolidation.finding, String.toList_ofList]
    exact (kinds_alike (alike_renumber (hkeep note hnote) _)).symm
  rw [hfindings, List.flatMap_map, List.flatMap_def, List.map_congr_left hkinds]

end Relationship

end CitedReport
