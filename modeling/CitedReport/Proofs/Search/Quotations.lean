import CitedReport.InternalSearch
import CitedReport.Proofs.Citation.Substitution
import CitedReport.WebSearch

/-!
# What the outputs of searches cite

The output of a search quotes texts that came from outside. Those with an address stand under
numbers and are its sources, so a number in brackets refers to the source with that number. Both
searches lay their outputs out in this way (`ToolOutput.Lists`), and the entry of each source has
the number of that source at its head.

The quoted texts are not escaped, and neither is the query. A number in brackets in one of them is a
marker like those at the heads. So the numbers at the heads are all that the output cites exactly
when there is no marker in any of these texts (`searches_honour_iff`).
-/

namespace CitedReport

open Chars Citation

/-- A text that an output quotes. -/
structure Quotation where
  /-- The source that it is from, if it has an address. -/
  source : Option SourceRef
  /-- What stands in its entry behind the number or the dash. -/
  text : List Char

namespace Quotation

/-- The entries of quotations; those with a source are numbered from the number on. -/
def entriesFrom : Nat → List Quotation → List (List Char)
  | _, [] => []
  | n, ⟨some _, text⟩ :: rest => ((Marker.single n).text ++ ' ' :: text) :: entriesFrom (n + 1) rest
  | n, ⟨none, text⟩ :: rest => ('-' :: ' ' :: text) :: entriesFrom n rest

/-- The markers of these entries: at each source its number, and those of the texts. -/
def markersFrom : Nat → List Quotation → List Marker
  | _, [] => []
  | n, ⟨some _, text⟩ :: rest => .single n :: (markers text ++ markersFrom (n + 1) rest)
  | n, ⟨none, text⟩ :: rest => markers text ++ markersFrom n rest

/-- Entries with a blank line behind each. -/
def spaced (entries : List (List Char)) : List Char := entries.flatMap (· ++ ['\n', '\n'])

/-- The markers of the numbers up to one. -/
def heads (count : Nat) : List Marker := (List.range' 1 count).map Marker.single

/-! ## Where the entries stand -/

/-- What comes behind some quotations is numbered behind their sources. -/
theorem entriesFrom_append (n : Nat) (before after : List Quotation) :
    entriesFrom n (before ++ after)
      = entriesFrom n before ++ entriesFrom (n + (before.filterMap source).length) after := by
  induction before generalizing n with
  | nil => rfl
  | cons q before ih =>
    rcases q with ⟨_ | source, text⟩
    · simpa [entriesFrom] using ih n
    · simpa [entriesFrom, Nat.add_assoc, Nat.add_comm 1] using ih (n + 1)

/-- A blank line stands between two entries, and none behind the last one. -/
theorem exists_spaced_eq (entries : List (List Char)) :
    ∃ rest, ']' ∉ rest ∧
      spaced entries = List.intercalate ['\n', '\n'] entries ++ rest := by
  induction entries with
  | nil => exact ⟨[], List.not_mem_nil, rfl⟩
  | cons e entries ih =>
    cases entries with
    | nil => exact ⟨['\n', '\n'], by decide, by simp [spaced]⟩
    | cons e' entries =>
      obtain ⟨rest, hrest, heq⟩ := ih
      refine ⟨rest, hrest, ?_⟩
      rw [spaced, List.flatMap_cons, ← spaced, heq, List.intercalate_cons_cons]
      simp

/-- An entry stands behind those before it. -/
theorem exists_intercalate_eq (before after : List (List Char)) (e : List Char) :
    ∃ tail, List.intercalate ['\n', '\n'] (before ++ e :: after) = spaced before ++ e ++ tail := by
  induction before with
  | nil =>
    cases after with
    | nil => exact ⟨[], by simp [spaced]⟩
    | cons e' after =>
      refine ⟨['\n', '\n'] ++ List.intercalate ['\n', '\n'] (e' :: after), ?_⟩
      rw [List.nil_append, List.intercalate_cons_cons, spaced, List.flatMap_nil, List.nil_append,
        List.append_assoc]
  | cons e' before ih =>
    obtain ⟨tail, heq⟩ := ih
    refine ⟨tail, ?_⟩
    obtain ⟨e'', rest, hcons⟩ : ∃ e'' rest, before ++ e :: after = e'' :: rest :=
      List.exists_cons_of_ne_nil (by simp)
    rw [List.cons_append, hcons, List.intercalate_cons_cons, ← hcons, heq]
    simp [spaced]

/-! ## The markers of the entries -/

/-- Entries add their markers to those of what stands before them. -/
theorem markers_append_spaced (before : List Char) (n : Nat) (qs : List Quotation) :
    markers (before ++ spaced (entriesFrom n qs)) = markers before ++ markersFrom n qs := by
  have hblank (cs : List Char) : markers (cs ++ ['\n', '\n']) = markers cs :=
    markers_append_of_closing_not_mem (by decide) cs
  induction qs generalizing before n with
  | nil => simp [entriesFrom, spaced, markersFrom]
  | cons q qs ih =>
    rcases q with ⟨_ | source, text⟩
    · have hsplit : before ++ spaced (entriesFrom n (⟨none, text⟩ :: qs))
          = (before ++ '-' :: ' ' :: text ++ ['\n', '\n']) ++ spaced (entriesFrom n qs) := by
        simp [entriesFrom, spaced]
      rw [hsplit, ih, hblank, markers_append_cons (by decide), markers_cons (by decide),
        markers_cons (by decide), markersFrom, List.append_assoc]
    · have hsplit : before ++ spaced (entriesFrom n (⟨some source, text⟩ :: qs))
          = (before ++ (Marker.single n).text ++ ' ' :: text ++ ['\n', '\n']) ++
            spaced (entriesFrom (n + 1) qs) := by
        simp [entriesFrom, spaced]
      have hentry : markers (before ++ (Marker.single n).text ++ ' ' :: text)
          = markers before ++ .single n :: markers text := by
        have hopening : (Marker.single n).text ++ ' ' :: text
            = '[' :: (indexText n ++ ']' :: ' ' :: text) := by simp
        rw [List.append_assoc, hopening, markers_append_cons (by decide), ← hopening,
          markers_text_append (Marker.wellFormed_single n), markers_cons (by decide)]
      rw [hsplit, ih, hblank, hentry, markersFrom, List.append_assoc, List.cons_append]

/-- There are as many as there are sources, and those of the texts. -/
theorem length_markersFrom (n : Nat) (qs : List Quotation) :
    (markersFrom n qs).length
      = (qs.filterMap source).length + (qs.flatMap fun q => markers q.text).length := by
  induction qs generalizing n with
  | nil => rfl
  | cons q qs ih =>
    rcases q with ⟨_ | source, text⟩
    · simp [markersFrom, ih]
      omega
    · simp [markersFrom, ih]
      omega

/-- When no text has markers they are the numbers of the sources. -/
theorem markersFrom_of_inert {qs : List Quotation} (h : ∀ q ∈ qs, Inert q.text) (n : Nat) :
    markersFrom n qs = (List.range' n (qs.filterMap source).length).map Marker.single := by
  induction qs generalizing n with
  | nil => rfl
  | cons q qs ih =>
    have htext := inert_iff.1 (h q List.mem_cons_self)
    have hrest := ih fun q' hq' => h q' (List.mem_cons_of_mem q hq')
    rcases q with ⟨_ | source, text⟩
    · simp [markersFrom, htext, hrest]
    · simp [markersFrom, htext, hrest, List.range'_succ]

/-- With something in front of them, they are the numbers of the sources just when there are no
others. -/
theorem markers_append_markersFrom_eq_heads_iff {opening : List Char} {qs : List Quotation} :
    markers opening ++ markersFrom 1 qs = heads (qs.filterMap source).length ↔
      Inert opening ∧ ∀ q ∈ qs, Inert q.text := by
  constructor
  · intro h
    have hlength := congrArg List.length h
    rw [List.length_append, length_markersFrom, heads, List.length_map, List.length_range']
      at hlength
    have hopening : (markers opening).length = 0 := by omega
    have htexts : (qs.flatMap fun q => markers q.text).length = 0 := by omega
    have hnone := List.flatMap_eq_nil_iff.1 (List.eq_nil_of_length_eq_zero htexts)
    exact ⟨inert_iff.2 (List.eq_nil_of_length_eq_zero hopening),
      fun q hq => inert_iff.2 (hnone q hq)⟩
  · rintro ⟨hopening, htexts⟩
    rw [inert_iff.1 hopening, markersFrom_of_inert htexts, List.nil_append, heads]

end Quotation

/-! ## Outputs that list quotations -/

namespace ToolOutput

open Quotation

/-- The output consists of an opening and the entries of quotations, and their sources are its
sources. -/
structure Lists (o : ToolOutput) (opening : List Char) (qs : List Quotation) : Prop where
  /-- The entries are set apart by blank lines. -/
  content : o.content.toList = opening ++ List.intercalate ['\n', '\n'] (entriesFrom 1 qs)
  /-- The sources are in the order of the entries. -/
  sources : o.sources = qs.filterMap Quotation.source

/-- A marker in the output refers to a source by standing at the head of its entry, and there are no
other markers. -/
structure Honours (o : ToolOutput) (qs : List Quotation) : Prop where
  /-- The markers are the numbers of the sources, in order. -/
  markers : markers o.content.toList = heads o.sources.length
  /-- The one that comes behind `k` others is at the head of the entry of the source behind `k`
  others. -/
  head : ∀ k source, o.sources[k]? = some source → ∃ lead q tail, q ∈ qs ∧ q.source = some source ∧
    o.content.toList = lead ++ (Marker.single (k + 1)).text ++ ' ' :: q.text ++ tail ∧
    Citation.markers lead = heads k

variable {o : ToolOutput} {opening : List Char} {qs : List Quotation}

/-- The markers of an output that lists quotations. -/
theorem Lists.markers_eq (h : o.Lists opening qs) :
    Citation.markers o.content.toList = Citation.markers opening ++ markersFrom 1 qs := by
  obtain ⟨rest, hrest, hspaced⟩ := exists_spaced_eq (entriesFrom 1 qs)
  rw [h.content, ← markers_append_spaced, hspaced, ← List.append_assoc,
    markers_append_of_closing_not_mem hrest]

/-- The source behind `k` others is quoted behind the entries of these, under its number. -/
theorem Lists.exists_head (h : o.Lists opening qs) {k : Nat} {source : SourceRef}
    (hk : o.sources[k]? = some source) :
    ∃ before q after tail, qs = before ++ q :: after ∧ q.source = some source ∧
      (before.filterMap Quotation.source).length = k ∧
      o.content.toList = opening ++ spaced (entriesFrom 1 before) ++
        (Marker.single (k + 1)).text ++ ' ' :: q.text ++ tail := by
  rw [h.sources] at hk
  obtain ⟨hlt, hget⟩ := List.getElem?_eq_some_iff.1 hk
  -- the source splits the list of sources, and with it that of the quotations
  have hsplit : qs.filterMap Quotation.source = (qs.filterMap Quotation.source).take k ++
      source :: (qs.filterMap Quotation.source).drop (k + 1) := by
    rw [← hget, ← List.drop_eq_getElem_cons, List.take_append_drop]
  obtain ⟨qs₁, qs₂, rfl, hfirst, hrest⟩ := List.filterMap_eq_append_iff.1 hsplit
  obtain ⟨unnumbered, q, after, rfl, hnone, hq, -⟩ := List.filterMap_eq_cons_iff.1 hrest
  have hcount : ((qs₁ ++ unnumbered).filterMap Quotation.source).length = k := by
    rw [List.filterMap_append, hfirst, List.filterMap_eq_nil_iff.2 hnone, List.append_nil,
      List.length_take_of_le hlt.le]
  have hentries : entriesFrom 1 (qs₁ ++ unnumbered ++ q :: after)
      = entriesFrom 1 (qs₁ ++ unnumbered) ++
        ((Marker.single (k + 1)).text ++ ' ' :: q.text) :: entriesFrom (k + 2) after := by
    obtain ⟨_, text⟩ := q
    obtain rfl : _ = some source := hq
    rw [entriesFrom_append, hcount, Nat.add_comm 1 k, entriesFrom]
  obtain ⟨tail, htail⟩ := exists_intercalate_eq (entriesFrom 1 (qs₁ ++ unnumbered))
    (entriesFrom (k + 2) after) ((Marker.single (k + 1)).text ++ ' ' :: q.text)
  refine ⟨qs₁ ++ unnumbered, q, after, tail, (List.append_assoc ..).symm, hq, hcount, ?_⟩
  rw [h.content, ← List.append_assoc, hentries, htail]
  simp only [List.append_assoc]

/-- The output of a search cites its sources at the heads of their entries and nothing else, just
when there are no markers in what it quotes. -/
theorem Lists.honours_iff (h : o.Lists opening qs) :
    o.Honours qs ↔ Inert opening ∧ ∀ q ∈ qs, Inert q.text := by
  rw [← markers_append_markersFrom_eq_heads_iff, ← h.markers_eq, ← h.sources]
  constructor
  · exact Honours.markers
  · intro hmarkers
    refine ⟨hmarkers, fun k source hk => ?_⟩
    rw [h.markers_eq, h.sources, markers_append_markersFrom_eq_heads_iff] at hmarkers
    obtain ⟨hopening, htexts⟩ := hmarkers
    obtain ⟨before, q, after, tail, rfl, hq, hcount, hcontent⟩ := h.exists_head hk
    refine ⟨_, q, tail, List.mem_append_right before List.mem_cons_self, hq, hcontent, ?_⟩
    rw [markers_append_spaced, ← hcount, markers_append_markersFrom_eq_heads_iff]
    exact ⟨hopening, fun q' hq' => htexts q' (List.mem_append_left _ hq')⟩

end ToolOutput

/-! ## The two searches -/

/-- A text in quotation marks has its own markers. -/
theorem Citation.markers_quoted {before : List Char} (h : '[' ∉ before)
    (text after : List Char) :
    markers (before ++ text ++ '"' :: after) = markers text ++ markers after := by
  rw [List.append_assoc, markers_append_of_opening_not_mem h, markers_append_cons (by decide),
    markers_cons (by decide)]

/-- A hit as it is quoted. -/
def SearchHit.quotation (h : SearchHit) : Quotation where
  source := some (SourceRef.withTitle? ⟨h.url, none⟩ h.title)
  text := h.text.toList ++ "\n  URL: ".toList ++ h.url.toList

/-- Its markers are those of its text and of its address. -/
theorem SearchHit.inert_quotation_iff (h : SearchHit) :
    Inert h.quotation.text ↔ Inert h.text.toList ∧ Inert h.url.toList := by
  have hsplit : h.quotation.text
      = (h.text.toList ++ "\n  ".toList) ++ 'U' :: ("RL: ".toList ++ h.url.toList) := by
    simp [quotation]
  have hmarkers : markers h.quotation.text = markers h.text.toList ++ markers h.url.toList := by
    rw [hsplit, markers_append_cons (by decide), markers_append_of_closing_not_mem (by decide),
      markers_cons (by decide), markers_append_of_opening_not_mem (by decide)]
  rw [inert_iff, hmarkers, List.append_eq_nil_iff, inert_iff, inert_iff]

/-- The entries of an output are those of its hits. -/
theorem WebSearch.map_toList_entries (n : Nat) (hits : List SearchHit) :
    (entries n hits).map String.toList
      = Quotation.entriesFrom n (hits.map SearchHit.quotation) := by
  induction hits generalizing n with
  | nil => rfl
  | cons h hits ih =>
    have hentry : (entry n h).toList = (Marker.single n).text ++ ' ' :: h.quotation.text := by
      simp [entry, SearchHit.quotation, indexText]
    rw [entries, List.map_cons, ih, hentry]
    rfl

/-- The output of a web search lists its hits, behind the query. -/
theorem WebSearch.exists_lists_render (query : String) (hits : List SearchHit) :
    ∃ opening, markers opening = markers query.toList ∧
      (render query hits).Lists opening (hits.map SearchHit.quotation) := by
  by_cases hnone : hits = []
  · subst hnone
    refine ⟨"No results found for \"".toList ++ query.toList ++
      '"' :: ". Try a broader query or scrape a specific page.".toList, ?_, ?_, rfl⟩
    · have hadvice : markers ". Try a broader query or scrape a specific page.".toList = [] := by
        decide +kernel
      rw [markers_quoted (by decide), hadvice, List.append_nil]
    · simp [render, Quotation.entriesFrom]
  · refine ⟨"Search results for \"".toList ++ query.toList ++ '"' :: ":\n\n".toList, ?_, ?_, ?_⟩
    · have hcolon : markers ":\n\n".toList = [] := by decide +kernel
      rw [markers_quoted (by decide), hcolon, List.append_nil]
    · simp [render, hnone, Text.join, map_toList_entries]
    · simp [render, hnone, SearchHit.quotation]

/-- A document as it is quoted. -/
def InternalDocument.quotation (d : InternalDocument) : Quotation where
  source := d.source?
  text := d.heading.toList ++ "\n  ".toList ++ (Text.trim d.content).toList

/-- The entries of an output are those of its documents. -/
theorem InternalAnswer.map_toList_entries (n : Nat) (documents : List InternalDocument) :
    (entries n documents).map String.toList
      = Quotation.entriesFrom n (documents.map InternalDocument.quotation) := by
  induction documents generalizing n with
  | nil => rfl
  | cons d documents ih =>
    have hentry (mark : String) :
        (d.entry mark).toList = mark.toList ++ ' ' :: d.quotation.text := by
      simp [InternalDocument.entry, InternalDocument.quotation]
    rw [entries, List.map_cons]
    cases haddress : d.address? with
    | none =>
      have hquotation : d.quotation = ⟨none, d.quotation.text⟩ := by
        simp [InternalDocument.quotation, InternalDocument.source?, haddress]
      rw [hquotation, Quotation.entriesFrom, ← ih]
      simp [hentry]
    | some url =>
      have hquotation : d.quotation
          = ⟨some (SourceRef.withTitle ⟨url, none⟩ d.heading), d.quotation.text⟩ := by
        simp [InternalDocument.quotation, InternalDocument.source?, haddress]
      rw [hquotation, Quotation.entriesFrom, ← ih]
      simp [hentry, indexText]

/-- What an output says is on record, if anything is. -/
def InternalAnswer.statusText (words : Option String) : String :=
  words.elim "" fun words => "Relationship status: " ++ words ++ "\n\n"

/-- It has the markers of the words. -/
theorem InternalAnswer.markers_statusText (words : Option String) :
    markers (statusText words).toList = words.elim [] fun words => markers words.toList := by
  cases words with
  | none => rfl
  | some words =>
    have htext : (statusText (some words)).toList
        = "Relationship status: ".toList ++ words.toList ++ "\n\n".toList := by
      rw [statusText, Option.elim_some, String.toList_append, String.toList_append]
    rw [htext, markers_append_of_closing_not_mem (by decide),
      markers_append_of_opening_not_mem (by decide), Option.elim_some]

/-- The text of an output: the query, what is on record, and the entries or that there are none. -/
theorem InternalAnswer.content_render (a : InternalAnswer) (query : String) (most : Nat) :
    (a.render query most).content = "Internal search results for \"" ++ query ++ "\":\n\n" ++
      statusText (a.relationship.bind canonical?) ++
      if a.documents.take most = [] then "No internal documents matched."
      else Text.join "\n\n" (entries 1 (a.documents.take most)) := by
  unfold render statusText
  cases a.relationship.bind canonical? with
  | none => rfl
  | some words => rfl

/-- The output of a search of internal documents lists them, behind the query and what is on
record. -/
theorem InternalAnswer.exists_lists_render (a : InternalAnswer) (query : String) (most : Nat) :
    ∃ opening, markers opening = markers query.toList ++
        ((a.relationship.bind canonical?).elim [] fun words => markers words.toList) ∧
      (a.render query most).Lists opening
        ((a.documents.take most).map InternalDocument.quotation) := by
  have hopening (nothing : List Char) (h : ']' ∉ nothing) :
      markers ("Internal search results for \"".toList ++ query.toList ++
          '"' :: (":\n\n".toList ++ (statusText (a.relationship.bind canonical?)).toList ++ nothing))
        = markers query.toList ++
          ((a.relationship.bind canonical?).elim [] fun words => markers words.toList) := by
    rw [markers_quoted (by decide), markers_append_of_closing_not_mem h,
      markers_append_of_opening_not_mem (by decide), markers_statusText]
  have hsources : (a.render query most).sources
      = ((a.documents.take most).map InternalDocument.quotation).filterMap Quotation.source := by
    rw [List.filterMap_map]
    rfl
  by_cases hnone : a.documents.take most = []
  · refine ⟨_, hopening "No internal documents matched.".toList (by decide), ?_, hsources⟩
    simp [content_render, hnone, Quotation.entriesFrom]
  · refine ⟨_, hopening [] List.not_mem_nil, ?_, hsources⟩
    simp [content_render, hnone, Text.join, map_toList_entries]

/-- What the searches put out. The entry of each source stands under its number, and the sources are
in the order of the entries. These numbers are all the citations in an output just when there is no
marker in the texts from outside that it quotes: in the query, in the words on record, in the text
and address of a hit, in the title and text of a document. -/
theorem searches_honour_iff (query : String) (hits : List SearchHit) (a : InternalAnswer)
    (most : Nat) :
    (let o := WebSearch.render query hits
      let quotations := hits.map SearchHit.quotation
      (∃ opening, markers opening = markers query.toList ∧ o.Lists opening quotations) ∧
        (o.Honours quotations ↔ Inert query.toList ∧
          ∀ h ∈ hits, Inert h.text.toList ∧ Inert h.url.toList)) ∧
    (let o := a.render query most
      let words := a.relationship.bind InternalAnswer.canonical?
      let quotations := (a.documents.take most).map InternalDocument.quotation
      (∃ opening, markers opening = markers query.toList ++
          (words.elim [] fun words => markers words.toList) ∧ o.Lists opening quotations) ∧
        (o.Honours quotations ↔ Inert query.toList ∧ (∀ w ∈ words, Inert w.toList) ∧
          ∀ d ∈ a.documents.take most, Inert d.quotation.text)) := by
  constructor
  · intro o quotations
    obtain ⟨opening, hopening, hlists⟩ := WebSearch.exists_lists_render query hits
    refine ⟨⟨opening, hopening, hlists⟩, ?_⟩
    rw [hlists.honours_iff, inert_iff, hopening, ← inert_iff, List.forall_mem_map]
    simp only [SearchHit.inert_quotation_iff]
  · intro o words quotations
    obtain ⟨opening, hopening, hlists⟩ := a.exists_lists_render query most
    -- what stands in front of the entries has the markers of the query and of the words on record
    have hquiet : Inert opening ↔ Inert query.toList ∧ ∀ w ∈ words, Inert w.toList := by
      rw [inert_iff, hopening, List.append_eq_nil_iff, inert_iff]
      cases hwords : a.relationship.bind InternalAnswer.canonical? with
      | none => simp [words, hwords]
      | some w => simp [words, hwords, inert_iff]
    refine ⟨⟨opening, hopening, hlists⟩, ?_⟩
    rw [hlists.honours_iff, hquiet, List.forall_mem_map, and_assoc]

/-- A footnote in a quoted text reads as a citation. -/
theorem not_searches_honour :
    (¬ ∀ (query : String) (hits : List SearchHit),
      (WebSearch.render query hits).Honours (hits.map SearchHit.quotation)) ∧
    ¬ ∀ (a : InternalAnswer) (query : String) (most : Nat),
      (a.render query most).Honours
        ((a.documents.take most).map InternalDocument.quotation) := by
  constructor
  · intro h
    have hmarkers := (h "Acme" [⟨none, "Acme met the CTO [2].", "https://a.example"⟩]).markers
    exact absurd hmarkers (by decide +kernel)
  · intro h
    have hmarkers := (h ⟨[⟨some "Call notes", some "https://crm.example/acme",
      "Met the CTO [2]."⟩], none⟩ "acme" 8).markers
    exact absurd hmarkers (by decide +kernel)

end CitedReport
