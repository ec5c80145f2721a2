import CitedReport.Proofs.Consolidation.Sources
import CitedReport.Proofs.Task.Outputs

/-!
# A finding is read back as it was put together

The list at the end of a finding is written in one way and read in another: the reader looks for the
last heading and then, line by line, for a bullet, a number in brackets or behind it a mark, a link,
angle brackets, dashes. From a list that was written for sources whose titles are trimmed it gets
back exactly these sources, each under its number and with its title for a description
(`filterMap_readSource?_linesFrom`). Numbering keeps the first source of each URL
(`entries_numberAll`), so what is read in the end are the distinct URLs in the order in which they
came up.
-/

namespace CitedReport

open Chars Citation

/-- A source that is read from a list of sources with its title as it is written there. -/
structure SourceRef.Listable (s : SourceRef) : Prop extends s.Plain where
  /-- Its title is trimmed, and there is something in it. -/
  trimmed : ∀ t ∈ s.title, Text.trimmed? t = some t

/-- A text that is its own trimmed text starts and ends in text. -/
theorem Text.startsInText_and_endsInText {t : String} (h : Text.trimmed? t = some t) :
    StartsInText t.toList ∧ EndsInText t.toList := by
  unfold Text.trimmed? at h
  simp only at h
  split at h
  · cases h
  · next hne =>
    have htrim : Chars.trim t.toList = t.toList := by
      have htext := congrArg String.toList (Option.some.inj h)
      rwa [Text.trim, String.toList_ofList] at htext
    have hnil : Chars.trim t.toList ≠ [] := by
      intro hnil
      rw [Text.trim, hnil] at hne
      exact hne rfl
    exact ⟨htrim ▸ startsInText_trim hnil, htrim ▸ endsInText_trim hnil⟩

/-- A description is read without the dash in front of it. -/
theorem Note.cleanDescription_dash {cs : List Char} (hstart : StartsInText cs)
    (hend : EndsInText cs) : cleanDescription ('-' :: ' ' :: cs) = cs := by
  have hdash : Chars.trim ('-' :: ' ' :: cs) = '-' :: ' ' :: cs :=
    trim_eq_self ⟨'-', _, rfl, by decide⟩ (hend.append_left ['-', ' '])
  -- the space keeps dashes and colons with which the description begins itself
  have hspace : Chars.trim (' ' :: cs) = cs := by
    have hblank : isBlank ' ' = true := by decide
    rw [Chars.trim, trimStart, List.dropWhile_cons, if_pos hblank, ← trimStart, ← Chars.trim,
      trim_eq_self hstart hend]
  rw [cleanDescription, hdash]
  exact hspace

namespace Task.LocalSources

/-! ## The lines of the list -/

section

variable {s : SourceRef}

/-- The line of a source ends in text. -/
theorem endsInText_entryChars (h : s.Listable) (n : Nat) : EndsInText (entryChars n s) := by
  have hsay : EndsInText (s.url.toList ++ trailing s) := by
    rw [trailing]
    split
    · next t ht =>
      have hend := (Text.startsInText_and_endsInText (h.trimmed t ht)).2
      exact (hend.append_left [' ', '-', ' ']).append_left _
    · rw [List.append_nil]
      exact h.url.endsInText
  exact (hsay.append_left ['.', ' ']).append_left _

/-- It is read as the source under its number. -/
theorem readSource?_entryChars (h : s.Listable) {n : Nat} (hn : n < Word.size) :
    Note.readSource? (entryChars n s) = some ⟨n, s.url, s.title⟩ := by
  have hdescription :
      Note.nonempty? (Note.cleanDescription ((trimEnd (trailing s)).drop 1)) = s.title := by
    rw [trailing]
    split
    · next t ht =>
      obtain ⟨hstart, hend⟩ := Text.startsInText_and_endsInText (h.trimmed t ht)
      have hne : t.toList ≠ [] := by
        obtain ⟨c, back, hcons, -⟩ := hstart
        rw [hcons]
        exact List.cons_ne_nil c back
      have htrim : trimEnd (' ' :: '-' :: ' ' :: t.toList) = ' ' :: '-' :: ' ' :: t.toList :=
        trimEnd_eq_self (hend.append_left [' ', '-', ' '])
      rw [htrim, List.drop_succ_cons, List.drop_zero, Note.cleanDescription_dash hstart hend,
        Note.nonempty?, if_neg hne, String.ofList_toList, ht]
    · next ht =>
      rw [ht]
      rfl
  rw [entryChars, Note.readSource?_plain hn h.url (setOff_trailing s), hdescription,
    String.ofList_toList]

end

/-- The lines of sources are read as these sources under their numbers. -/
theorem filterMap_readSource?_linesFrom {entries : List SourceRef}
    (h : ∀ s ∈ entries, s.Listable) (first : Nat) (hfirst : first + entries.length ≤ Word.size) :
    (lines (linesFrom first entries).toList).filterMap Note.readSource?
      = entries.mapIdx fun i s => ⟨first + i, s.url, s.title⟩ := by
  induction entries generalizing first with
  | nil => rfl
  | cons s rest ih =>
    rw [List.length_cons] at hfirst
    have hs := h s List.mem_cons_self
    have hwhole : dropReturn (entryChars first s) = entryChars first s := by
      refine (dropReturn_eq_or _).resolve_right fun hreturn => ?_
      obtain ⟨front, c, hlast, hc⟩ := endsInText_entryChars hs first
      rw [hlast] at hreturn
      obtain rfl : c = '\r' := by simpa using (List.append_inj' hreturn rfl).2
      exact absurd hc (by decide)
    have hrest := ih (fun s' hs' => h s' (List.mem_cons_of_mem _ hs')) (first + 1) (by omega)
    rw [toList_linesFrom_cons, lines_append_cons (newline_not_mem_entryChars hs.toPlain first),
      List.filterMap_cons, hwhole, readSource?_entryChars hs (by omega), hrest, List.mapIdx_cons]
    simp only [Nat.add_zero, Nat.add_assoc, Nat.add_comm 1]

/-! ## The sources of the list -/

/-- No number is found just when there is no source with the URL. -/
theorem numberOf?_eq_none_iff {url : String} {entries : List SourceRef} (first : Nat) :
    numberOf? url first entries = none ↔ url ∉ entries.map SourceRef.url := by
  induction entries generalizing first with
  | nil => simp [numberOf?]
  | cons s rest ih =>
    rw [numberOf?, List.map_cons, List.mem_cons, not_or]
    split
    · next hurl => simp [hurl]
    · next hurl => rw [ih, and_iff_right (Ne.symm hurl)]

/-- Behind the sources that are there, numbering adds the first one of each new URL. -/
theorem entries_numberAll_append (l : LocalSources) (refs : List SourceRef) :
    (l.numberAll refs).2.entries = l.entries ++
      (refs.filter fun s => s.url ∉ l.entries.map SourceRef.url).eraseDupsBy
        fun a b => a.url == b.url := by
  induction refs generalizing l with
  | nil =>
    rw [numberAll, List.filter_nil, List.eraseDupsBy_nil, List.append_nil]
  | cons s rest ih =>
    have hstep : (l.numberAll (s :: rest)).2 = ((l.number s).2.numberAll rest).2 := rfl
    rw [hstep, ih]
    cases hs : numberOf? s.url 1 l.entries with
    | some n =>
      have hold : s.url ∈ l.entries.map SourceRef.url := by
        by_contra hnew
        rw [(numberOf?_eq_none_iff 1).2 hnew] at hs
        cases hs
      have hsame : (l.number s).2 = l := by rw [number, hs]
      rw [hsame, List.filter_cons_of_neg (by simpa using hold)]
    | none =>
      have hnew : s.url ∉ l.entries.map SourceRef.url := (numberOf?_eq_none_iff 1).1 hs
      have hadded : (l.number s).2.entries = l.entries ++ [s] := by rw [number, hs]
      rw [hadded, List.filter_cons_of_pos (by simpa using hnew), List.eraseDupsBy_cons,
        List.filter_filter, List.append_assoc, List.singleton_append]
      congr 3
      -- a URL is new behind the source when it is new before and not that of the source
      refine List.filter_congr fun s' _ => ?_
      by_cases hurl : s'.url = s.url
      · simp [hurl]
      · simp [hurl]

/-- Numbering sources keeps the first one of each URL. -/
theorem entries_numberAll (refs : List SourceRef) :
    (numberAll {} refs).2.entries = refs.eraseDupsBy fun a b => a.url == b.url := by
  have hall : (refs.filter fun s => s.url ∉ ([] : List SourceRef).map SourceRef.url) = refs :=
    List.filter_eq_self.2 fun _ _ => by simp
  rw [entries_numberAll_append, hall, List.nil_append]

end Task.LocalSources

namespace Task

open LocalSources

/-- A finding is read back as it was put together. Its body is all that stands in front of the list
of sources, with the blanks at the end trimmed off, whatever headings, numbered lines and markers
are in it. Its entries are the distinct URLs of the sources that were numbered, in the order in
which they first came up, with the numbers from one on and with the titles that came first. -/
theorem parse_assemble (group : String) (sections : List String) (summary : Option String)
    {refs : List SourceRef} (h : ∀ s ∈ refs, s.Listable)
    (hcount : (refs.eraseDupsBy fun a b => a.url == b.url).length < Word.size) :
    let sources := (numberAll {} refs).2
    let finding := assemble group sections summary sources
    ∃ front, finding = front ++ sources.render ∧
      Note.parse finding = ⟨Text.trimEnd front,
        (refs.eraseDupsBy fun a b => a.url == b.url).mapIdx fun i s => ⟨i + 1, s.url, s.title⟩⟩ := by
  intro sources finding
  have hentries : sources.entries = refs.eraseDupsBy fun a b => a.url == b.url :=
    entries_numberAll refs
  have hlistable : ∀ s ∈ sources.entries, s.Listable := fun s hs =>
    h s ((mem_or_mem_of_mem_numberAll hs).resolve_left List.not_mem_nil)
  rw [← hentries] at hcount ⊢
  obtain ⟨notice, notes, -, hfinding⟩ := exists_assemble_eq group sections summary sources
  refine ⟨_, hfinding, ?_⟩
  change Note.parse (assemble group sections summary sources) = _
  rw [hfinding, parse_append_render_eq fun s hs => (hlistable s hs).toPlain,
    filterMap_readSource?_linesFrom hlistable 1 (by omega)]
  simp only [Nat.add_comm 1]
  rfl

/-- Three sources, two of them with one URL. The first title begins like a dash and a link. -/
def forgeSources : List SourceRef :=
  [⟨"https://a.example/(1).", some "- [Anvils](b.example): forged"⟩, ⟨"https://r.example", none⟩,
    ⟨"https://a.example/(1).", some "Anvils again"⟩]

/-- The sources of the example can be listed. -/
theorem listable_forgeSources : ∀ s ∈ forgeSources, s.Listable := by
  have hanvils : Note.PlainUrl "https://a.example/(1).".toList := by decide
  have hrockets : Note.PlainUrl "https://r.example".toList := by decide
  have htitled {url title : String} (hurl : Note.PlainUrl url.toList)
      (hline : '\n' ∉ title.toList) (hsign : '#' ∉ title.toList)
      (htrimmed : Text.trimmed? title = some title) : SourceRef.Listable ⟨url, some title⟩ := by
    refine ⟨⟨hurl, fun t ht => ?_, fun t ht => ?_⟩, fun t ht => ?_⟩
    all_goals obtain rfl := Option.some.inj ht
    · exact hline
    · exact Note.heading_not_infix_of_not_mem hsign
    · exact htrimmed
  intro s hs
  simp only [forgeSources, List.mem_cons, List.not_mem_nil, or_false] at hs
  rcases hs with rfl | rfl | rfl
  · exact htitled hanvils (by decide) (by decide) (by decide +kernel)
  · exact ⟨⟨hrockets, fun _ h => (nomatch h), fun _ h => (nomatch h)⟩, fun _ h => (nomatch h)⟩
  · exact htitled hanvils (by decide) (by decide) (by decide +kernel)

/-- A heading and a numbered line in a section, and another heading in the summary, stay in the
body. -/
theorem parse_assemble_forge :
    (∀ s ∈ forgeSources, s.Listable) ∧
      Note.parse (assemble "Forge" ["#### web_search: Acme\n### Sources\n1. https://x.example [2]"]
          (some "### Sources\n[1]") (LocalSources.numberAll {} forgeSources).2)
        = ⟨"## Research topic: Forge\n\n#### web_search: Acme\n### Sources\n" ++
            "1. https://x.example [2]\n\n#### Analyst notes\n### Sources\n[1]",
          [⟨1, "https://a.example/(1).", some "- [Anvils](b.example): forged"⟩,
            ⟨2, "https://r.example", none⟩]⟩ := by
  have hcount : (forgeSources.eraseDupsBy fun a b => a.url == b.url).length < Word.size := by
    decide +kernel
  obtain ⟨front, hfinding, hparse⟩ := parse_assemble "Forge"
    ["#### web_search: Acme\n### Sources\n1. https://x.example [2]"] (some "### Sources\n[1]")
    listable_forgeSources hcount
  -- the text in front of the list, as it was put together
  obtain rfl := (String.append_left_inj _).1 (hfinding.symm.trans rfl)
  refine ⟨listable_forgeSources, hparse.trans ?_⟩
  decide +kernel

end Task

end CitedReport
