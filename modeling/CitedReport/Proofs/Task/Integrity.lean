import CitedReport.Proofs.Citation.Place
import CitedReport.Proofs.Consolidation.Findings
import CitedReport.Proofs.Task.OneCall

/-!
# Citations from the output of a tool to the sources of a report

A number in an output refers to a source of that output. It is renumbered twice on its way into a
report, with a list of sources written down and read again in between. Here one number is followed:
where it stands in the finding of its task (`Received.landing`), which entry it refers to there, and
what becomes of it when the finding is consolidated with others.
-/

namespace CitedReport.Task

open Chars Citation Consolidation Dialogue

/-! ## The markers of an output -/

/-- The text of an output with the numbers of its task, character by character. -/
theorem toList_renumberContent (numbers : List Nat) (content : String) :
    (renumberContent numbers content).toList
      = (pieces content.toList).flatMap (renumberPiece numbers) :=
  String.toList_ofList

/-- A marker that keeps a number is made of what is left of it. -/
theorem renumberPiece_marker {numbers : List Nat} {m : Marker}
    (h : m.survivors (resolve numbers) ≠ []) :
    renumberPiece numbers (.marker m) = Citation.bracketed (m.survivors (resolve numbers)) := by
  rw [← Marker.replacement_eq_bracketed, Marker.replacement, renumberPiece]
  cases hm : m.renumber (resolve numbers) with
  | unchanged => rfl
  | changed m' => rfl
  | removed => exact absurd (Marker.renumber_eq_removed_iff.1 hm) h

/-- A number that refers to a source of the output becomes the number of that source. -/
theorem resolveDigits_of_getElem? {numbers : List Nat} {digits : List Char} {k n : Nat}
    (hk : index? digits = some k) (hone : 1 ≤ k) (hn : numbers[k - 1]? = some n) :
    resolveDigits (resolve numbers) digits = some (indexText n) := by
  obtain ⟨i, rfl⟩ : ∃ i, k = i + 1 := ⟨k - 1, by omega⟩
  rw [Nat.add_sub_cancel] at hn
  simp only [resolveDigits, hk, resolve, hn]

/-- Where a number of an output stands when the output has the numbers of its task. -/
theorem citedAt_renumberContent {numbers : List Nat} {content : String} {p : Place}
    {digits : List Char} {k n : Nat} (h : CitedAt content.toList p digits)
    (hk : index? digits = some k) (hone : 1 ≤ k) (hn : numbers[k - 1]? = some n) :
    CitedAt (renumberContent numbers content).toList
      ⟨(renumberContent numbers (String.ofList p.lead)).toList,
        p.before.filterMap (resolveDigits (resolve numbers))⟩ (indexText n) := by
  obtain ⟨m, after, tail, hm, htext, htokens⟩ := h
  have hdigits := resolveDigits_of_getElem? hk hone hn
  have hleft : (m.survivors (resolve numbers)).map Prod.snd
      = p.before.filterMap (resolveDigits (resolve numbers)) ++
        indexText n :: after.filterMap (resolveDigits (resolve numbers)) := by
    rw [Marker.map_snd_survivors, htokens, List.filterMap_append, List.filterMap_cons, hdigits]
  have hne : m.survivors (resolve numbers) ≠ [] := by
    intro hnil
    rw [hnil] at hleft
    simp at hleft
  have hpiece := renumberPiece_marker hne
  obtain ⟨⟨sep, first⟩, more, hcons⟩ := List.exists_cons_of_ne_nil hne
  rw [hcons] at hpiece hleft
  refine ⟨⟨first, more⟩, after.filterMap (resolveDigits (resolve numbers)),
    (pieces tail).flatMap (renumberPiece numbers), hm.of_survivors hcons, ?_, hleft⟩
  rw [toList_renumberContent, toList_renumberContent, String.toList_ofList, htext,
    pieces_append_marker hm, List.flatMap_append, List.flatMap_cons, hpiece, Citation.bracketed,
    List.append_assoc]

/-! ## The passage of an output -/

/-- What stands before the text of an output in a finding, behind the passages of earlier ones. -/
def passageOpening (group : String) (passages : List String) (x : Received) : String :=
  "## Research topic: " ++ topicTitle group ++ "\n\n" ++
    String.join (passages.map (· ++ "\n\n")) ++
    "#### " ++ x.name ++ ": " ++ describeArguments x.arguments ++ "\n"

/-- The numbers of the sources of an output that is received after others. -/
def Received.numbers (earlier : List Received) (x : Received) : List Nat :=
  ((recordAll {} earlier).2.numberAll x.output.sources).1

/-- Where a number at a place of an output stands in the finding: behind the beginning of the
passage and what stands before it in the output, in its marker behind the numbers that are left of
those before it. -/
def Received.landing (group : String) (earlier : List Received) (x : Received) (p : Place) :
    Place :=
  { lead := (passageOpening group (recordAll {} earlier).1 x).toList ++
      trimStart (renumberContent (x.numbers earlier) (String.ofList p.lead)).toList
    before := p.before.filterMap (resolveDigits (resolve (x.numbers earlier))) }

/-- A number that refers to a source of an output has landed in the passage of the output. -/
theorem citedAt_landing {earlier : List Received} {x : Received} {p : Place} {digits : List Char}
    {k n : Nat} (hcited : CitedAt x.output.content.toList p digits) (hk : index? digits = some k)
    (hone : 1 ≤ k) (hn : (x.numbers earlier)[k - 1]? = some n) (group : String)
    (closing : List Char) :
    CitedAt ((passageOpening group (recordAll {} earlier).1 x).toList ++
      trim (renumberContent (x.numbers earlier) x.output.content).toList ++ closing)
      (x.landing group earlier p) (indexText n) := by
  have hpassage := (citedAt_renumberContent hcited hk hone hn).trim.between
    (passageOpening group (recordAll {} earlier).1 x).toList closing
  -- the place is put together before it is compared
  dsimp only at hpassage
  unfold Received.landing
  exact hpassage

/-- The passage of an output among those of the others. The text of the output ends with a line. -/
theorem exists_passages_eq (earlier later : List Received) (x : Received) :
    ∃ cited more rest, cited ++ "\n\n" = "\n" ++ more ∧
      (recordAll {} (earlier ++ x :: later)).1 = (recordAll {} earlier).1 ++
        ("#### " ++ x.name ++ ": " ++ describeArguments x.arguments ++ "\n" ++
          Text.trim (renumberContent (x.numbers earlier) x.output.content) ++ cited) :: rest := by
  have hcited : ∀ (numbers : List Nat) (list : String), ∃ more,
      (if numbers = [] then "" else "\n\nSources: " ++ list) ++ "\n\n" = "\n" ++ more := by
    intro numbers list
    split
    · exact ⟨"\n", rfl⟩
    · refine ⟨"\nSources: " ++ list ++ "\n\n", ?_⟩
      rw [← String.append_assoc, ← String.append_assoc]
      rfl
  obtain ⟨more, hmore⟩ := hcited (x.numbers earlier)
    (String.join ((unique (x.numbers earlier)).map bracketed))
  rw [recordAll_append, recordAll]
  exact ⟨_, more, _, hmore, rfl⟩

/-- A finding consists of the beginning of the passage of an output, the text of the output, the
rest, which begins on a line of its own, and the list of sources. -/
theorem exists_finding_split (group : String) (earlier later : List Received) (x : Received)
    (summary : Option String) (sources : LocalSources) :
    ∃ front closing : String,
      assemble group (recordAll {} (earlier ++ x :: later)).1 summary sources
        = front ++ sources.render ∧
      front.toList = (passageOpening group (recordAll {} earlier).1 x).toList ++
        trim (renumberContent (x.numbers earlier) x.output.content).toList ++
          '\n' :: closing.toList := by
  obtain ⟨cited, more, rest, hmore, hpassages⟩ := exists_passages_eq earlier later x
  obtain ⟨notice, notes, hnotice, heq⟩ := exists_assemble_eq group
    (recordAll {} (earlier ++ x :: later)).1 summary sources
  have hne : (recordAll {} (earlier ++ x :: later)).1 ≠ [] := by
    rw [hpassages]
    simp
  obtain rfl := hnotice hne
  refine ⟨_, more ++ String.join (rest.map (· ++ "\n\n")) ++ notes, heq, ?_⟩
  -- the passage ends with a blank line, so that what follows begins on a line of its own
  have hline : cited.toList ++ ['\n', '\n'] = '\n' :: more.toList := by
    have := congrArg String.toList hmore
    rwa [String.toList_append, String.toList_append] at this
  have hclosing : ∀ cs : List Char, cited.toList ++ '\n' :: '\n' :: cs
      = '\n' :: (more.toList ++ cs) := by
    intro cs
    rw [← List.cons_append, ← hline, List.append_assoc]
    rfl
  unfold passageOpening
  rw [hpassages]
  simp [String.toList_join, Text.trim, hclosing]

/-! ## What a finding refers to -/

/-- The list of sources is not shorter than their number. -/
theorem length_entries_le (front : String) (l : LocalSources) :
    l.entries.length ≤ (front ++ l.render).length := by
  have hlines : ∀ (entries : List SourceRef) (first : Nat),
      entries.length ≤ (LocalSources.linesFrom first entries).toList.length := by
    intro entries
    induction entries with
    | nil => exact fun _ => Nat.zero_le _
    | cons s rest ih =>
      intro first
      have := ih (first + 1)
      rw [LocalSources.toList_linesFrom_cons, List.length_append, List.length_cons,
        List.length_cons]
      omega
  have := hlines l.entries 1
  rw [LocalSources.render, ← String.length_toList, String.toList_append, String.toList_append,
    List.length_append, List.length_append]
  omega

/-- The number of a source of an output goes on referring to its URL in the whole task. -/
theorem exists_number_refers (earlier later : List Received) (x : Received) {i : Nat}
    {source : SourceRef} (h : x.output.sources[i]? = some source) :
    ∃ n, (x.numbers earlier)[i]? = some n ∧
      (recordAll {} (earlier ++ x :: later)).2.Refers n source.url := by
  obtain ⟨n, hn, hrefers⟩ := LocalSources.numberAll_refers (l := (recordAll {} earlier).2) h
  refine ⟨n, hn, ?_⟩
  rw [recordAll_append, recordAll]
  exact hrefers.of_extends (recordAll_extends _ later)

/-- In the body of a finding a number of an output stands where it has landed, with the number of
its source in the task, and exactly one entry of the finding has that number and has the URL of that
source. -/
theorem exists_citedAt_finding {group finding : String} {earlier later : List Received}
    {x : Received} {summary : Option String} {p : Place} {digits : List Char} {k : Nat}
    {source : SourceRef}
    (hfinding : finding = assemble group (recordAll {} (earlier ++ x :: later)).1 summary
      (recordAll {} (earlier ++ x :: later)).2)
    (hlength : finding.length < Word.size)
    (hplain : ∀ y ∈ earlier ++ x :: later, ∀ source ∈ y.output.sources, source.Plain)
    (hcited : CitedAt x.output.content.toList p digits) (hk : index? digits = some k)
    (hone : 1 ≤ k) (hsource : x.output.sources[k - 1]? = some source) :
    ∃ n e, n < Word.size ∧
      CitedAt (Note.parse finding).body.toList (x.landing group earlier p) (indexText n) ∧
      (Note.parse finding).sources.filter (fun e => e.number = n) = [e] ∧ e.url = source.url := by
  obtain ⟨n, hn, i, s, rfl, hs, hurl⟩ := exists_number_refers earlier later x hsource
  have hsplain := plain_of_mem_recordAll hplain
  generalize (recordAll {} (earlier ++ x :: later)).2 = all at hfinding hs hsplain
  -- the finding as it is put together is read back as its body and its entries
  obtain ⟨front, closing, heq, hfront⟩ := exists_finding_split group earlier later x summary all
  rw [heq] at hfinding
  rw [hfinding] at hlength ⊢
  have hfits : all.entries.length < Word.size :=
    Nat.lt_of_le_of_lt (length_entries_le front all) hlength
  obtain ⟨hbody, hsources⟩ := LocalSources.parse_append_render hsplain hfits front
  simp only [Nat.add_comm _ 1] at hsources hn
  obtain ⟨e, he, hurl'⟩ := LocalSources.exists_filter_eq_singleton hsources hs
  have hi : i < all.entries.length := (List.getElem?_eq_some_iff.1 hs).1
  refine ⟨1 + i, e, by omega, ?_, he, hurl'.trans hurl⟩
  rw [hbody, hfront]
  exact (citedAt_landing hcited hk hone hn group ('\n' :: closing.toList)).trimEnd

/-- Every citation of a tool output goes on referring to the same source, up to the report. Let a
task be completed, with a finding that is not longer than texts can be, and let the sources of the
outputs that it received be plain. Then a number in a marker of an output that refers to a source
of that output stands in the finding at the same place, as a number that exactly one entry has, and
that entry has the URL of the source. When notes with that finding among them are consolidated, the
number there becomes the position of that URL in the list of sources, or it goes because that URL
was pruned. -/
theorem citation_integrity {s : ModelSettings} {tools : Toolbox} {maxTurns : Nat} {group : String}
    {subject : SubjectType} {trace : List Exchange} {result : TaskResult}
    {earlier later : List Received} {x : Received} {p : Place} {digits : List Char} {k : Nat}
    {source : SourceRef}
    (hheld : Held (execute s tools maxTurns group subject) trace result)
    (hdone : result.isFailure = false) (hlength : result.finding.length < Word.size)
    (hplain : ∀ y ∈ received tools trace, ∀ source ∈ y.output.sources, source.Plain)
    (hreceived : received tools trace = earlier ++ x :: later)
    (hcited : CitedAt x.output.content.toList p digits) (hk : index? digits = some k)
    (hone : 1 ≤ k) (hsource : x.output.sources[k - 1]? = some source) :
    let note := Note.parse result.finding
    let place := x.landing group earlier p
    ∃ n, CitedAt note.body.toList place (indexText n) ∧
      (∃ e, note.sources.filter (fun e => e.number = n) = [e] ∧ e.url = source.url) ∧
      ∀ (policy : PrunePolicy) (maxSources : Nat) (brief : String) (subject' : SubjectType)
        (notes : List String) (j : Nat), notes[j]? = some result.finding →
        let context := consolidate policy maxSources brief notes subject'
        ∃ finding, context.findings[j]? = some finding ∧
          ∃ become, BecomesAt (Outcome context.sources note.sources) note.body.toList
            finding.toList place become ∧
            ((∃ g listed, become = some (indexText (g + 1)) ∧ context.sources[g]? = some listed ∧
                listed.url = source.url) ∨
              (become = none ∧ 0 < context.pruned ∧
                ∀ listed ∈ context.sources, listed.url ≠ source.url)) := by
  intro note place
  obtain ⟨summary, hfinding⟩ := exists_finding_eq hheld hdone
  rw [hreceived] at hfinding hplain
  -- from the output to the finding, and from the finding to the report
  obtain ⟨n, e, hn, hplace, hentry, hurl⟩ :=
    exists_citedAt_finding hfinding hlength hplain hcited hk hone hsource
  refine ⟨n, hplace, ⟨e, hentry, hurl⟩, fun policy maxSources brief subject' notes j hj => ?_⟩
  rw [← hurl]
  exact exists_finding_becomesAt policy maxSources brief subject' hj hplace hn hentry

/-! ## A task with one call -/

/-- A toolbox with one tool. -/
def searchTools : Toolbox := ⟨[⟨"web_search", "Searches the web.", ⟨.object [], rfl⟩, 30000⟩]⟩

/-- A call of the tool. -/
def searchCall : ToolCall :=
  ⟨"call-1", "web_search", ⟨.object [("query", .string "rockets")], rfl⟩⟩

/-- What the tool answers. It gives one of its sources twice. -/
def searchOutput : ToolOutput :=
  { content := "Rockets [3], anvils [1, 2]."
    sources := [⟨"https://a.example", some "Anvils"⟩, ⟨"https://a.example", none⟩,
      ⟨"https://r.example", none⟩] }

/-- The output with its call. -/
def searchReceived : Received := ⟨"web_search", searchCall.arguments, searchOutput⟩

/-- A model for which the conversation is just short enough. -/
def searchModel : ModelSettings :=
  { contextWindow := ModelSettings.estimateTokens (opening searchTools "Acme" .company) }

/-- The completion that asks for the call. -/
def searchCompletion : Completion := ⟨⟨.assistant, .toolCall searchCall⟩, {}, "model", none⟩

/-- The exchanges of the task. -/
def searchTrace : List Exchange :=
  [⟨.complete (searchModel.request (opening searchTools "Acme" .company)
      (some searchTools.definitions)), .ok searchCompletion⟩,
    ⟨.charge {}, ()⟩, ⟨.callTool "web_search" searchCall.arguments, ⟨0, .ok searchOutput⟩⟩]

/-- The result of the task. -/
def searchResult : TaskResult :=
  { group := "Acme"
    finding := assemble "Acme" (recordAll {} [searchReceived]).1 none
      (recordAll {} [searchReceived]).2
    rawNotes := [searchOutput.content] }

/-- The task is held in these exchanges. -/
theorem held_search :
    Held (execute searchModel searchTools 1 "Acme" .company) searchTrace searchResult :=
  OneCall.held ⟨⟨"web_search", "Searches the web.", ⟨.object [], rfl⟩, 30000⟩,
    searchCall.arguments, searchOutput, "Acme", .company⟩

/-- The sources of the output are plain. -/
theorem plain_search : ∀ source ∈ searchOutput.sources, source.Plain := by
  have hanvils : Note.PlainUrl "https://a.example".toList := by decide
  have hrockets : Note.PlainUrl "https://r.example".toList := by decide
  intro source hsource
  simp only [searchOutput, List.mem_cons, List.not_mem_nil, or_false] at hsource
  rcases hsource with rfl | rfl | rfl
  · refine ⟨hanvils, fun t ht => ?_, fun t ht hocc => ?_⟩
    · obtain rfl := Option.some.inj ht
      decide
    · obtain rfl := Option.some.inj ht
      exact absurd hocc.length_le (by decide)
  · exact ⟨hanvils, fun _ ht => (nomatch ht), fun _ ht => (nomatch ht)⟩
  · exact ⟨hrockets, fun _ ht => (nomatch ht), fun _ ht => (nomatch ht)⟩

/-- The third source of the output is the second of the task, and the finding says so. -/
theorem citation_integrity_search :
    Held (execute searchModel searchTools 1 "Acme" .company) searchTrace searchResult ∧
      ∃ n, CitedAt (Note.parse searchResult.finding).body.toList
        (searchReceived.landing "Acme" [] ⟨"Rockets ".toList, []⟩) (indexText n) ∧
        ∃ e, (Note.parse searchResult.finding).sources.filter (fun e => e.number = n) = [e] ∧
          e.url = "https://r.example" := by
  have hreceived : received searchTools searchTrace = [] ++ searchReceived :: [] := rfl
  have hdone : searchResult.isFailure = false := isFailureNote_assemble ..
  have hlength : searchResult.finding.length < Word.size := by decide +kernel
  have hplain : ∀ y ∈ received searchTools searchTrace, ∀ source ∈ y.output.sources,
      source.Plain := by
    intro y hy
    rw [hreceived, List.nil_append, List.mem_singleton] at hy
    rw [hy]
    exact plain_search
  have hmarker : (Marker.mk ['3'] []).WellFormed := ⟨isDigits_indexText 3, by simp⟩
  have hcited : CitedAt searchReceived.output.content.toList ⟨"Rockets ".toList, []⟩ ['3'] :=
    ⟨⟨['3'], []⟩, [], ", anvils [1, 2].".toList, hmarker, rfl, rfl⟩
  obtain ⟨n, hplace, hentry, -⟩ :=
    citation_integrity held_search hdone hlength hplain hreceived hcited rfl (by decide) rfl
  exact ⟨held_search, n, hplace, hentry⟩

end CitedReport.Task
