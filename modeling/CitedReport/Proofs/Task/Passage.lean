import CitedReport.Proofs.Citation.Rereading
import CitedReport.Proofs.Task.Integrity

/-!
# The passage of an output cites its own sources

A finding is read for citations as a whole, so in the passage of an output every number that can be
read as a citation has to be one of the sources of that output. Behind the heading it is so
(`refers_of_citedAt_passage`): what is read there are the markers that renumbering has left of those
of the output, and the numbers in the list of what the output cites (`markers_passageBody`).

The heading itself is written as the model has asked for it. A number in brackets in a query is read
as a citation of whatever source has that number in the task (`not_refers_query`).
-/

namespace CitedReport.Task

open Chars Citation

/-! ## The markers of a renumbered output -/

/-- The marker that takes the place of a marker of an output, if one does. -/
def renumbered? (numbers : List Nat) (m : Marker) : Option Marker :=
  ofTokens? (m.survivors (resolve numbers))

/-- What takes the place of a marker of an output is a marker, made of some of its numbers. -/
theorem wellFormed_of_renumbered? {numbers : List Nat} {m m' : Marker} (h : m.WellFormed)
    (hm : renumbered? numbers m = some m') :
    m'.WellFormed ∧ m'.tokens.map Prod.snd
      = (m.tokens.map Prod.snd).filterMap (resolveDigits (resolve numbers)) := by
  rw [← Marker.map_snd_survivors]
  rw [renumbered?] at hm
  cases hleft : m.survivors (resolve numbers) with
  | nil =>
    rw [hleft] at hm
    cases hm
  | cons t more =>
    rw [hleft] at hm
    obtain rfl := Option.some.inj hm
    exact ⟨h.of_survivors hleft, rfl⟩

/-- Renumbering an output puts markers in the place of its markers. -/
theorem toList_renumberContent_eq_substitute (numbers : List Nat) (content : String) :
    (renumberContent numbers content).toList
      = substitute (renumbered? numbers) content.toList := by
  rw [toList_renumberContent, substitute]
  refine List.flatMap_congr fun piece _ => ?_
  cases piece with
  | char c => rfl
  | marker m =>
    rw [Piece.substituted, renumbered?]
    cases hleft : m.survivors (resolve numbers) with
    | nil => rw [ofTokens?, renumberPiece, Marker.renumber_eq_removed_iff.2 hleft]
    | cons t more =>
      rw [renumberPiece_marker (by rw [hleft]; exact List.cons_ne_nil t more), hleft]
      rfl

/-- What is read in a renumbered output are these markers. -/
theorem markers_renumberContent (numbers : List Nat) (content : String) :
    markers (renumberContent numbers content).toList
      = (markers content.toList).filterMap (renumbered? numbers) := by
  rw [toList_renumberContent_eq_substitute]
  exact markers_substitute (fun _ h _ hm => (wellFormed_of_renumbered? h hm).1) content.toList

/-- A number that is left of a marker of an output, and can be read, is that of a source. -/
theorem mem_of_resolveDigits {numbers : List Nat} {digits new : List Char} {n : Nat}
    (h : resolveDigits (resolve numbers) digits = some new) (hn : index? new = some n) :
    n ∈ numbers := by
  unfold resolveDigits at h
  split at h
  · next hunread =>
    -- digits that cannot be read are left as they are
    rw [← Option.some.inj h, hunread] at hn
    cases hn
  · next k _ =>
    cases k with
    | zero => cases h
    | succ i =>
      rw [resolve] at h
      cases hi : numbers[i]? with
      | none =>
        rw [hi] at h
        cases h
      | some n' =>
        rw [hi] at h
        obtain rfl := Option.some.inj h
        rw [eq_of_index?_indexText hn]
        exact List.mem_of_getElem? hi

/-- So the numbers of a renumbered output are those of its sources. -/
theorem mem_of_mem_markers_renumberContent {numbers : List Nat} {content : String} {m : Marker}
    (hm : m ∈ markers (renumberContent numbers content).toList) {digits : List Char}
    (hdigits : digits ∈ m.tokens.map Prod.snd) {n : Nat} (hn : index? digits = some n) :
    n ∈ numbers := by
  rw [markers_renumberContent] at hm
  obtain ⟨old, hold, hnew⟩ := List.mem_filterMap.1 hm
  rw [(wellFormed_of_renumbered? (mem_markers_iff.1 hold).1 hnew).2] at hdigits
  obtain ⟨before, -, hbefore⟩ := List.mem_filterMap.1 hdigits
  exact mem_of_resolveDigits hbefore hn

/-! ## The parts of a passage -/

/-- The heading of a passage, without the end of its line. -/
def passageHeading (tool target : String) : String := "#### " ++ tool ++ ": " ++ target

/-- What stands behind the heading of the passage of an output whose sources have these numbers. -/
def passageBody (numbers : List Nat) (content : String) : String :=
  "\n" ++ Text.trim (renumberContent numbers content) ++
    if numbers = [] then ""
    else "\n\nSources: " ++ String.join ((unique numbers).map bracketed)

/-- A passage is its heading and the content of the output, renumbered. -/
theorem passage_eq (tool target : String) (output : ToolOutput) (l : LocalSources) :
    (recordOutput tool target output l).1.passage
      = passageHeading tool target ++
        passageBody (l.numberAll output.sources).1 output.content := by
  simp only [recordOutput, passageHeading, passageBody, String.append_assoc]

/-- Numbers in brackets are read one by one. -/
theorem markers_join_bracketed (ns : List Nat) :
    markers (String.join (ns.map bracketed)).toList = ns.map Marker.single := by
  induction ns with
  | nil => rfl
  | cons n ns ih =>
    have hhead : (String.join ((n :: ns).map bracketed)).toList
        = (Marker.single n).text ++ (String.join (ns.map bracketed)).toList := by
      simp [String.toList_join, bracketed, indexText]
    rw [hhead, markers_text_append (Marker.wellFormed_single n), ih, List.map_cons]

/-- The markers behind the heading: first those of the output, then the numbers it is said to
cite. -/
theorem markers_passageBody (numbers : List Nat) (content : String) :
    markers (passageBody numbers content).toList
      = markers (renumberContent numbers content).toList ++
        (unique numbers).map Marker.single := by
  have hline : markers ('\n' :: (Text.trim (renumberContent numbers content)).toList)
      = markers (renumberContent numbers content).toList := by
    rw [markers_cons (by decide), Text.trim, String.toList_ofList, markers_trim]
  by_cases hnone : numbers = []
  · rw [hnone] at hline ⊢
    have hbody : (passageBody [] content).toList
        = '\n' :: (Text.trim (renumberContent [] content)).toList := by simp [passageBody]
    rw [hbody, hline, unique, List.map_nil, List.append_nil]
  · have hbody : (passageBody numbers content).toList
        = ('\n' :: (Text.trim (renumberContent numbers content)).toList ++ ['\n', '\n']) ++
          'S' :: ("ources: ".toList ++ (String.join ((unique numbers).map bracketed)).toList) := by
      simp [passageBody, hnone]
    rw [hbody, markers_append_cons (by decide), markers_append_of_closing_not_mem (by decide),
      hline, markers_cons (by decide), markers_append_of_opening_not_mem (by decide),
      markers_join_bracketed]

/-- A number without the repetitions is one of the numbers. -/
theorem mem_of_mem_unique {n : Nat} {ns : List Nat} (h : n ∈ unique ns) : n ∈ ns := by
  induction ns with
  | nil => exact h
  | cons n' ns ih =>
    rcases List.mem_cons.1 h with rfl | h
    · exact List.mem_cons_self
    · exact List.mem_cons_of_mem n' (ih (List.mem_of_mem_filter h))

/-- A number that is read behind the heading is one of the numbers of the sources. -/
theorem mem_of_mem_markers_passageBody {numbers : List Nat} {content : String} {m : Marker}
    (hm : m ∈ markers (passageBody numbers content).toList) {digits : List Char}
    (hdigits : digits ∈ m.tokens.map Prod.snd) {n : Nat} (hn : index? digits = some n) :
    n ∈ numbers := by
  rw [markers_passageBody] at hm
  rcases List.mem_append.1 hm with hm | hm
  · exact mem_of_mem_markers_renumberContent hm hdigits hn
  · obtain ⟨k, hk, rfl⟩ := List.mem_map.1 hm
    obtain rfl : digits = indexText k := List.mem_singleton.1 hdigits
    rw [eq_of_index?_indexText hn]
    exact mem_of_mem_unique hk

/-! ## Whose sources a passage cites -/

/-- Numbering gives each source one number. -/
theorem LocalSources.length_numberAll (l : LocalSources) (sources : List SourceRef) :
    (l.numberAll sources).1.length = sources.length := by
  induction sources generalizing l with
  | nil => rfl
  | cons s rest ih => exact congrArg (· + 1) (ih (l.number s).2)

/-- A number that was given refers to the source that it was given to. -/
theorem LocalSources.exists_refers_of_mem_numberAll {l : LocalSources} {sources : List SourceRef}
    {n : Nat} (h : n ∈ (l.numberAll sources).1) :
    ∃ (i : Nat) (source : SourceRef), sources[i]? = some source ∧
      (l.numberAll sources).1[i]? = some n ∧
      (l.numberAll sources).2.Refers n source.url := by
  obtain ⟨i, hi⟩ := List.getElem?_of_mem h
  have hlt : i < sources.length := by
    rw [← length_numberAll l sources]
    exact (List.getElem?_eq_some_iff.1 hi).1
  have hsource : sources[i]? = some sources[i] := List.getElem?_eq_getElem hlt
  obtain ⟨n', hn', hrefers⟩ := numberAll_refers (l := l) hsource
  rw [hi] at hn'
  obtain rfl := Option.some.inj hn'
  exact ⟨i, sources[i], hsource, hi, hrefers⟩

/-- When there is no bracket in the beginning of a text, every marker stands behind it. -/
theorem prefix_lead_of_not_mem {front back lead tail : List Char} {m : Marker} (h : '[' ∉ front)
    (htext : front ++ back = lead ++ m.text ++ tail) : front <+: lead := by
  rw [List.append_assoc] at htext
  rcases List.append_eq_append_iff.1 htext with ⟨more, hlead, -⟩ | ⟨more, hfront, hmarker⟩
  · exact ⟨more, hlead.symm⟩
  · cases more with
    | nil => exact ⟨[], by rw [hfront, List.append_nil, List.append_nil]⟩
    | cons c more =>
      obtain rfl : '[' = c := (List.cons.inj hmarker).1
      rw [hfront] at h
      exact absurd (List.mem_append_right lead List.mem_cons_self) h

/-- A passage cites the sources of its own output, behind its heading or, when there is no bracket
in the heading, anywhere. Wherever a number can be read there as part of a citation, it is the
number that the task has given to a source of the output, and in the sources of the task it refers
to the URL of that source. -/
theorem refers_of_citedAt_passage {tool target : String} {output : ToolOutput} {l : LocalSources}
    {p : Place} {digits : List Char} {n : Nat}
    (hcited : CitedAt (recordOutput tool target output l).1.passage.toList p digits)
    (hbehind : (passageHeading tool target).toList <+: p.lead ∨
      '[' ∉ (passageHeading tool target).toList)
    (hn : index? digits = some n) :
    ∃ (i : Nat) (source : SourceRef), output.sources[i]? = some source ∧
      (l.numberAll output.sources).1[i]? = some n ∧
      (recordOutput tool target output l).2.Refers n source.url := by
  obtain ⟨m, after, tail, hm, htext, htokens⟩ := hcited
  rw [passage_eq, String.toList_append] at htext
  obtain ⟨lead, hlead⟩ := hbehind.elim id fun h => prefix_lead_of_not_mem h htext
  have hbody : CitedAt (passageBody (l.numberAll output.sources).1 output.content).toList
      ⟨lead, p.before⟩ digits := by
    refine ⟨m, after, tail, hm, ?_, htokens⟩
    rw [← hlead, List.append_assoc, List.append_assoc] at htext
    rw [List.append_cancel_left htext, List.append_assoc]
  obtain ⟨m', hmarker, hdigits⟩ := exists_citedAt_iff.1 ⟨_, hbody⟩
  exact LocalSources.exists_refers_of_mem_numberAll
    (mem_of_mem_markers_passageBody hmarker hdigits hn)

/-- The task has one source; the output gives another one and the same again, and its text refers
to the second, to one that there is not, and to nothing that there is. -/
theorem refers_of_citedAt_passage_forge :
    let l : LocalSources := ⟨[⟨"https://a.example", none⟩]⟩
    let output : ToolOutput :=
      ⟨"Anvils [2, 7], [9].", [⟨"https://r.example", none⟩, ⟨"https://a.example", some "A"⟩]⟩
    let place : Place := ⟨"#### web_search: Acme [1]\nAnvils ".toList, []⟩
    CitedAt (recordOutput "web_search" "Acme [1]" output l).1.passage.toList place ['1'] ∧
      ∃ (i : Nat) (source : SourceRef), output.sources[i]? = some source ∧
        (l.numberAll output.sources).1[i]? = some 1 ∧
        (recordOutput "web_search" "Acme [1]" output l).2.Refers 1 source.url := by
  intro l output place
  have hcited :
      CitedAt (recordOutput "web_search" "Acme [1]" output l).1.passage.toList place ['1'] :=
    ⟨.single 1, [], ", \\[9\\].\n\nSources: [2][1]".toList, Marker.wellFormed_single 1,
      by decide +kernel, rfl⟩
  have hbehind : (passageHeading "web_search" "Acme [1]").toList <+: place.lead :=
    ⟨"\nAnvils ".toList, by decide +kernel⟩
  exact ⟨hcited, refers_of_citedAt_passage hcited (.inl hbehind) (by decide)⟩

/-- In the heading a number may refer to the source of another output: the query says it. -/
theorem not_refers_query :
    ¬ ∀ (tool target : String) (output : ToolOutput) (l : LocalSources) (p : Place)
        (digits : List Char) (n : Nat),
      CitedAt (recordOutput tool target output l).1.passage.toList p digits →
        index? digits = some n →
        ∃ source ∈ output.sources, (recordOutput tool target output l).2.Refers n source.url := by
  intro h
  have hcited : CitedAt (recordOutput "internal_search" "Acme [1]"
      ⟨"No internal documents matched.", []⟩ ⟨[⟨"https://a.example", none⟩]⟩).1.passage.toList
      ⟨"#### internal_search: Acme ".toList, []⟩ ['1'] :=
    ⟨.single 1, [], "\nNo internal documents matched.".toList, Marker.wellFormed_single 1,
      by decide +kernel, rfl⟩
  obtain ⟨source, hsource, -⟩ := h _ _ _ _ _ _ _ hcited (by decide : index? ['1'] = some 1)
  cases hsource

end CitedReport.Task
