import CitedReport.InternalSearch
import CitedReport.Proofs.Relationship.Silence
import CitedReport.Proofs.Task.Integrity

/-!
# What decides on the relationship

What is on record about the relationship with the subject is read off the findings as a whole, the
texts of all tools and the remarks of the model among them. So a page that is fetched can put an
engagement on record (`not_decided_by_searches`). As long as the other texts are silent, only
internal search decides: two runs that receive the same from it agree on what is on record
(`onRecord_eq_of_comparable`).

A text is followed from the output into the finding and into the consolidated findings. Renumbering
its markers leaves it silent, since no word of a status goes past a bracket; and in the finding it
stands between lines that stand apart, so that the status lines of a finding are put together from
those of its parts.
-/

namespace CitedReport.Task

open Chars Citation Consolidation Dialogue Relationship

/-! ## The text of an output -/

/-- What takes the place of a marker begins with a bracket, or with the backslash in front of
one. -/
theorem exists_sign_renumberPiece (numbers : List Nat) (m : Marker) :
    ∃ c cs, IsSign c ∧ renumberPiece numbers (.marker m) = c :: cs := by
  rw [renumberPiece]
  cases m.renumber (resolve numbers) with
  | unchanged => exact ⟨'[', _, .inl rfl, rfl⟩
  | changed m' => exact ⟨'[', _, .inl rfl, rfl⟩
  | removed => exact ⟨'\\', _, .inr rfl, rfl⟩

/-- No mark of a status begins in what takes the place of a marker. -/
theorem fold_ne_of_mem_renumberPiece {m : Marker} (hm : m.WellFormed) {numbers : List Nat}
    {c : Char} (hc : c ∈ renumberPiece numbers (.marker m)) : fold c ≠ 'r' := by
  have hdigit : isDigit c = true → fold c ≠ 'r' := by
    intro h hr
    rw [fold_of_isDigit h] at hr
    exact absurd h (by rw [hr]; decide)
  have hblank : isBlank c = true → fold c ≠ 'r' := by
    intro h hr
    rw [fold_of_isBlank h] at hr
    exact absurd h (by rw [hr]; decide)
  have hmarker : ∀ m' : Marker, m'.WellFormed → c ∈ m'.text → fold c ≠ 'r' := by
    intro m' hm' hmem
    rcases List.mem_cons.1 hmem with rfl | hmem
    · decide
    · rcases Marker.class_of_mem_tail hm' hmem with h | h | rfl | rfl
      · exact hdigit h
      · exact hblank h
      · decide
      · decide
  by_cases hleft : m.survivors (resolve numbers) = []
  · -- no number is left, and the marker is escaped
    rw [renumberPiece, Marker.renumber_eq_removed_iff.2 hleft] at hc
    simp only [Marker.escaped, List.mem_cons, List.mem_append, List.not_mem_nil, or_false] at hc
    rcases hc with rfl | rfl | hinner | rfl | rfl
    · decide
    · decide
    · exact hmarker m hm (List.mem_cons_of_mem _ (List.mem_append_left _ hinner))
    · decide
    · decide
  · -- the numbers that are left make a marker
    obtain ⟨⟨sep, first⟩, more, hcons⟩ := List.exists_cons_of_ne_nil hleft
    rw [renumberPiece_marker hleft, hcons] at hc
    exact hmarker _ (hm.of_survivors hcons) hc

/-- With the numbers of its task a text is the same up to its first marker. -/
theorem masked_flatMap {cs : List Char} {ps : List Piece} (h : Scan cs ps) (numbers : List Nat) :
    Masked cs (ps.flatMap (renumberPiece numbers)) := by
  induction h with
  | nil => exact .nil
  | @marker m cs ps _ _ _ =>
    obtain ⟨c, new, hc, hnew⟩ := exists_sign_renumberPiece numbers m
    rw [List.flatMap_cons, hnew]
    exact .sign (.inl rfl) hc _ _
  | char _ _ ih => exact .char _ ih

/-- With the numbers of its task a text has a mark only if it has had one before. -/
theorem unmarked_flatMap {cs : List Char} {ps : List Piece} (h : Scan cs ps) (numbers : List Nat)
    (hcs : Unmarked cs) : Unmarked (ps.flatMap (renumberPiece numbers)) := by
  induction h with
  | nil => exact unmarked_nil
  | @marker m cs ps hm _ ih =>
    have hrest : Unmarked cs := fun rest hrest => hcs rest (hrest.trans (List.suffix_append _ _))
    exact (ih hrest).append_left fun c hc => fold_ne_of_mem_renumberPiece hm hc
  | char hno hps ih =>
    obtain ⟨hhere, hlater⟩ := unmarked_cons.1 hcs
    refine unmarked_cons.2 ⟨?_, ih hlater⟩
    -- a mark that begins here would have begun here before
    have hsame := readAlike_masked.phrase (masked_flatMap (.char hno hps) numbers)
      List.mem_cons_self
    rw [hhere] at hsame
    rcases eq_none_or_exists_of_rel hsame with ⟨-, hnone⟩ | ⟨x, y, hsome, -, -⟩
    · exact hnone
    · cases hsome

/-- Renumbering the markers of a silent text leaves it silent. -/
theorem silent_renumberContent {content : String} (h : Silent content.toList) (numbers : List Nat) :
    Silent (renumberContent numbers content).toList := by
  have hscan := scan_pieces content.toList
  rw [toList_renumberContent]
  exact ⟨unmarked_flatMap hscan numbers h.unmarked,
    readAlike_masked.standsApart (masked_flatMap hscan numbers) h.apart⟩

/-! ## The passages of a task -/

/-- Two outputs answer the same call, and do so in the same way if it is one of internal search.
Another tool may answer with another text. -/
structure Received.SameSearch (x y : Received) : Prop where
  /-- The same tool is called. -/
  name : x.name = y.name
  /-- It is called with the same arguments. -/
  arguments : x.arguments = y.arguments
  /-- It gives the same sources. -/
  sources : x.output.sources = y.output.sources
  /-- Internal search gives the same text. -/
  content : x.name = InternalSearch.name → x.output.content = y.output.content

/-- Two outputs answer the same call, and either do so with the same text or come from another tool
than internal search and are silent. -/
structure Received.SameEvidence (x y : Received) : Prop extends SameSearch x y where
  /-- Texts that differ are silent. -/
  silent : x.output.content = y.output.content ∨ x.name ≠ InternalSearch.name ∧
    Silent x.output.content.toList ∧ Silent y.output.content.toList

/-- The passages of a task that are carried on with a text. -/
def withPassages (passages : List String) (rest : List Char) : List Char :=
  (String.join (passages.map (· ++ "\n\n"))).toList ++ rest

/-- The first passage comes with an empty line behind it. -/
theorem withPassages_cons (passage : String) (passages : List String) (rest : List Char) :
    withPassages (passage :: passages) rest
      = passage.toList ++ '\n' :: '\n' :: withPassages passages rest := by
  simp [withPassages, String.toList_join]

/-- Passages of the same evidence agree, in front of texts that agree. -/
theorem agree_passage {x y : Received} (h : x.SameEvidence y) (l : LocalSources)
    {rest rest' : List Char} (hrest : Agree rest rest') :
    Agree
      ((recordOutput x.name (describeArguments x.arguments) x.output l).1.passage.toList ++
        '\n' :: '\n' :: rest)
      ((recordOutput y.name (describeArguments y.arguments) y.output l).1.passage.toList ++
        '\n' :: '\n' :: rest') := by
  rw [recordOutput, recordOutput, ← h.name, ← h.arguments, ← h.sources]
  generalize l.numberAll x.output.sources = r
  obtain ⟨numbers, l'⟩ := r
  -- the tasks have numbered the same sources before, so both texts get the same numbers
  have hsame : trim (renumberContent numbers x.output.content).toList
        = trim (renumberContent numbers y.output.content).toList ∨
      Silent (trim (renumberContent numbers x.output.content).toList) ∧
        Silent (trim (renumberContent numbers y.output.content).toList) := by
    rcases h.silent with heq | ⟨-, hx, hy⟩
    · rw [heq]
      exact .inl rfl
    · exact .inr
        ⟨(silent_renumberContent hx numbers).trim, (silent_renumberContent hy numbers).trim⟩
  have htitle : ∀ rest, StandsApart
      (("#### " ++ x.name ++ ": " ++ describeArguments x.arguments).toList ++ rest) := by
    intro rest
    rw [String.toList_append, String.toList_append, String.toList_append]
    rfl
  by_cases hnumbers : numbers = []
  · simpa [hnumbers, Text.trim] using hrest.section (hnumbers ▸ hsame) htitle
  · -- a line with the sources stands between the text and what follows
    have hcited : ∀ rest, StandsApart
        (("Sources: " ++ String.join ((unique numbers).map bracketed)).toList ++ rest) := by
      intro rest
      rw [String.toList_append]
      rfl
    have hbelow := hrest.append_left (by simpa using hcited [])
    simpa [hnumbers, Text.trim] using hbelow.section hsame htitle

/-- The passages of two tasks with the same evidence agree, and the tasks number their sources in
the same way. -/
theorem agree_recordAll {xs ys : List Received} (h : List.Forall₂ Received.SameEvidence xs ys)
    (l : LocalSources) {rest rest' : List Char} (hrest : Agree rest rest') :
    (recordAll l xs).2 = (recordAll l ys).2 ∧
      Agree (withPassages (recordAll l xs).1 rest) (withPassages (recordAll l ys).1 rest') := by
  induction h generalizing l with
  | nil => exact ⟨rfl, hrest⟩
  | @cons x y xs ys hxy _ ih =>
    have hsources : (recordOutput x.name (describeArguments x.arguments) x.output l).2
        = (recordOutput y.name (describeArguments y.arguments) y.output l).2 := by
      rw [recordOutput, recordOutput, hxy.sources]
    rw [recordAll_cons, recordAll_cons, ← hsources]
    obtain ⟨hsame, hagree⟩ := ih (recordOutput x.name (describeArguments x.arguments) x.output l).2
    refine ⟨hsame, ?_⟩
    rw [withPassages_cons, withPassages_cons]
    exact agree_passage hxy l hagree

/-! ## The finding of a task -/

/-- The remarks of two tasks are the same, or both are silent as far as there are any. -/
def SameRemark (a b : Option String) : Prop :=
  a = b ∨ (∀ s ∈ a, Silent s.toList) ∧ ∀ s ∈ b, Silent s.toList

/-- The remark of a task as it stands in the finding. -/
def remarkSection (summary : Option String) : String :=
  match summary with
  | some s => "#### Analyst notes\n" ++ s ++ "\n\n"
  | none => ""

/-- The notice in a finding that has nothing else. -/
def noticeSection (passages : List String) (summary : Option String) : String :=
  if passages = [] ∧ summary = none then "No evidence was gathered for this topic.\n\n" else ""

/-- Texts that agree do so behind the remarks of their tasks. -/
theorem agree_remarks {a b : Option String} (h : SameRemark a b) {rest rest' : List Char}
    (hrest : Agree rest rest') :
    Agree ((remarkSection a).toList ++ rest) ((remarkSection b).toList ++ rest') := by
  have hsome : ∀ s rest, (remarkSection (some s)).toList ++ rest
      = "#### Analyst notes".toList ++ '\n' :: (s.toList ++ '\n' :: '\n' :: rest) := by
    intro s rest
    have htitle : "#### Analyst notes\n".toList = "#### Analyst notes".toList ++ ['\n'] := rfl
    unfold remarkSection
    rw [String.toList_append, String.toList_append, htitle]
    simp
  have hidle : ∀ a : Option String, (∀ s ∈ a, Silent s.toList) → Idle (remarkSection a).toList := by
    intro a ha
    cases a with
    | none => exact idle_nil
    | some s =>
      have htitle : Silent "#### Analyst notes".toList := by decide
      intro rest hrest
      rw [hsome]
      simpa using (ha s rfl).idle.cons_line htitle rest hrest
  -- the remarks are the same, or there is no mark of a status in either of them
  rcases h with rfl | ⟨ha, hb⟩
  · cases a with
    | none => exact hrest
    | some s =>
      rw [hsome, hsome]
      refine hrest.section (.inl rfl) fun rest => ?_
      rw [show "#### Analyst notes".toList = '#' :: "### Analyst notes".toList from rfl]
      rfl
  · exact hrest.idle (hidle a ha) (hidle b hb)

/-- Texts that agree do so behind the notices of their tasks. -/
theorem agree_notices {rest rest' : List Char} (h : Agree rest rest') (xs ys : List String)
    (a b : Option String) :
    Agree ((noticeSection xs a).toList ++ rest) ((noticeSection ys b).toList ++ rest') := by
  have hidle : ∀ xs a, Idle (noticeSection xs a).toList := by
    intro xs a
    rw [noticeSection]
    split
    · have hline : "No evidence was gathered for this topic.\n\n".toList
          = "No evidence was gathered for this topic.".toList ++ ['\n', '\n'] := rfl
      rw [hline]
      exact Silent.idle (by decide)
    · exact idle_nil
  exact h.idle (hidle xs a) (hidle ys b)

/-- A finding in front of its list of sources. -/
def findingText (group : String) (passages : List String) (summary : Option String) : String :=
  "## Research topic: " ++ topicTitle group ++ "\n\n" ++ noticeSection passages summary ++
    String.join (passages.map (· ++ "\n\n")) ++ remarkSection summary

/-- A finding is its passages and its summary, and then the list of sources. -/
theorem assemble_eq (group : String) (passages : List String) (summary : Option String)
    (sources : LocalSources) :
    assemble group passages summary sources
      = findingText group passages summary ++ sources.render :=
  rfl

/-- Findings with the same evidence agree in front of their lists of sources. -/
theorem agree_findingText {xs ys : List Received}
    (h : List.Forall₂ Received.SameEvidence xs ys) {a b : Option String} (hremark : SameRemark a b)
    (group : String) {rest : List Char} (hrest : StandsApart rest) :
    Agree ((findingText group (recordAll {} xs).1 a).toList ++ rest)
      ((findingText group (recordAll {} ys).1 b).toList ++ rest) := by
  have hsplit : ∀ passages summary, (findingText group passages summary).toList ++ rest
      = ("## Research topic: " ++ topicTitle group).toList ++
        '\n' :: '\n' :: ((noticeSection passages summary).toList ++
          withPassages passages ((remarkSection summary).toList ++ rest)) := by
    intro passages summary
    unfold findingText withPassages
    simp
  have hpassages := (agree_recordAll h {} (agree_remarks hremark (Agree.refl hrest))).2
  rw [hsplit, hsplit]
  refine (agree_notices hpassages _ _ a b).append_left ?_
  rw [String.toList_append]
  rfl

/-- Findings with the same evidence have status lines of the same kinds in their bodies, and the
same entries. -/
theorem kinds_body_eq {xs ys : List Received} (h : List.Forall₂ Received.SameEvidence xs ys)
    {a b : Option String} (hremark : SameRemark a b) (group : String) :
    let note := Note.parse (assemble group (recordAll {} xs).1 a (recordAll {} xs).2)
    let note' := Note.parse (assemble group (recordAll {} ys).1 b (recordAll {} ys).2)
    note.sources = note'.sources ∧ kinds note.body.toList = kinds note'.body.toList := by
  have hsources : (recordAll {} xs).2 = (recordAll {} ys).2 :=
    (agree_recordAll h {} (Agree.refl (show StandsApart [] from rfl))).1
  rw [← hsources]
  obtain ⟨extra, block, hrender, hparse⟩ := (recordAll {} xs).2.exists_parse_append_render
  -- the list of sources begins with its heading, and so does what of it is in the body
  have hextra : StandsApart extra := by
    cases extra with
    | nil => rfl
    | cons c extra =>
      have hhead : '#' = c := by
        have hhead := congrArg List.head? hrender
        rw [LocalSources.render, String.toList_append] at hhead
        exact Option.some.inj hhead
      rw [← hhead]
      rfl
  rw [assemble_eq, assemble_eq, hparse, hparse]
  refine ⟨rfl, ?_⟩
  rw [String.toList_ofList, String.toList_ofList, ← kinds_alike (alike_trimEnd _),
    ← kinds_alike (alike_trimEnd _), (agree_findingText h hremark group hextra).kinds_eq]

/-! ## What is on record -/

/-- Two notes that are the same, or that are the findings of two completed tasks on one group with
the same evidence and the same remark. -/
inductive Comparable : String → String → Prop where
  /-- The note is the same. -/
  | same (note : String) : Comparable note note
  /-- The notes are findings. -/
  | findings {s s' : ModelSettings} {tools tools' : Toolbox} {maxTurns maxTurns' : Nat}
    {group : String} {subject subject' : SubjectType} {trace trace' : List Exchange}
    {result result' : TaskResult}
    (hheld : Held (execute s tools maxTurns group subject) trace result)
    (hheld' : Held (execute s' tools' maxTurns' group subject') trace' result')
    (hdone : result.isFailure = false) (hdone' : result'.isFailure = false)
    (hreceived : List.Forall₂ Received.SameEvidence (received tools trace) (received tools' trace'))
    (hremark : SameRemark (remark trace) (remark trace')) :
    Comparable result.finding result'.finding

/-- Comparable notes have the same entries, and status lines of the same kinds in their bodies. -/
theorem Comparable.parse_eq {note note' : String} (h : Comparable note note') :
    (Note.parse note).sources = (Note.parse note').sources ∧
      kinds (Note.parse note).body.toList = kinds (Note.parse note').body.toList := by
  cases h with
  | same => exact ⟨rfl, rfl⟩
  | findings hheld hheld' hdone hdone' hreceived hremark =>
    rw [finding_eq hheld hdone, finding_eq hheld' hdone']
    exact kinds_body_eq hreceived hremark _

/-- As long as the other texts are silent, internal search alone decides what is on record. Let some
notes be compared with others, one by one, where two notes are the same or come from completed
tasks that close with the same remark and receive the same outputs but for silent texts of other
tools than internal search. If no source is pruned, the same is on record according to both. -/
theorem onRecord_eq_of_comparable {notes notes' : List String}
    (hnotes : List.Forall₂ Comparable notes notes') (policy : PrunePolicy) (maxSources : Nat)
    (brief : String) (subject : SubjectType)
    (hpruned : (consolidate policy maxSources brief notes subject).pruned = 0) :
    (detect (consolidate policy maxSources brief notes subject).findings).onRecord
      = (detect (consolidate policy maxSources brief notes' subject).findings).onRecord := by
  have hmap : ∀ {β : Type} (f : String → β),
      (∀ note note', Comparable note note' → f note = f note') → notes.map f = notes'.map f := by
    intro β f hf
    rw [← List.forall₂_eq_eq_eq, List.forall₂_map_left_iff, List.forall₂_map_right_iff]
    exact hnotes.imp hf
  have hsources := hmap (fun note => (Note.parse note).sources) fun _ _ h => h.parse_eq.1
  have hkinds := hmap (fun note => kinds (Note.parse note).body.toList) fun _ _ h => h.parse_eq.2
  -- what is pruned depends on the entries of the notes alone
  have hpruned' : (consolidate policy maxSources brief notes' subject).pruned = 0 := by
    rw [← pruned_congr policy maxSources brief subject hsources, hpruned]
  rw [onRecord_detect, onRecord_detect, flatMap_kinds_findings hpruned,
    flatMap_kinds_findings hpruned', hkinds]

/-- A task that reads a page, called once. -/
def pageTask (content : String) : OneCall :=
  { tool := ⟨"scrape_page", "Reads a page.", Json.Sorted.of (.object []), 30000⟩
    arguments := Json.Sorted.of (.object [("url", .string "https://acme.example")])
    output := ⟨content, [⟨"https://acme.example", none⟩]⟩
    group := "Relationship"
    subject := .company }

/-- A page is not read by internal search. -/
theorem name_pageTask_ne (content : String) :
    (pageTask content).received.name ≠ InternalSearch.name := by
  change "scrape_page" ≠ "internal_search"
  decide

/-- Pages with silent texts are the same evidence. -/
theorem comparable_pageTask {c d : String} (hc : Silent c.toList) (hd : Silent d.toList) :
    Comparable (pageTask c).result.finding (pageTask d).result.finding := by
  have hevidence : Received.SameEvidence (pageTask c).received (pageTask d).received :=
    { name := rfl
      arguments := rfl
      sources := rfl
      content := fun h => absurd h (name_pageTask_ne c)
      silent := .inr ⟨name_pageTask_ne c, hc, hd⟩ }
  refine .findings (pageTask c).held (pageTask d).held (pageTask c).completed
    (pageTask d).completed ?_ (.inl ?_)
  · rw [OneCall.received_trace, OneCall.received_trace]
    exact .cons hevidence .nil
  · rw [OneCall.remark_trace, OneCall.remark_trace]

/-- Pages that say nothing about the relationship leave on record what a search has found. -/
theorem onRecord_eq_of_comparable_pages :
    let search := "Relationship status: Past engagement"
    let notes := [search, (pageTask "Anvils [1] since 1949.").result.finding]
    let notes' := [search, (pageTask "Relationships matter.").result.finding]
    (consolidate .mostCited 1 "" notes .company).pruned = 0 ∧
      (detect (consolidate .mostCited 1 "" notes .company).findings).onRecord
        = (detect (consolidate .mostCited 1 "" notes' .company).findings).onRecord := by
  intro search notes notes'
  have hpruned : (consolidate .mostCited 1 "" notes .company).pruned = 0 := by decide +kernel
  have hpages : Comparable (pageTask "Anvils [1] since 1949.").result.finding
      (pageTask "Relationships matter.").result.finding :=
    comparable_pageTask (by decide) (by decide)
  exact ⟨hpruned, onRecord_eq_of_comparable (.cons (.same _) (.cons hpages .nil)) .mostCited 1 ""
    .company hpruned⟩

/-- Internal search is not the only authority: a page that is read puts an engagement on record. -/
theorem not_decided_by_searches :
    ¬ ∀ (s : ModelSettings) (tools : Toolbox) (maxTurns : Nat) (group : String)
      (subject : SubjectType) (trace trace' : List Exchange) (result result' : TaskResult),
      Held (execute s tools maxTurns group subject) trace result →
      Held (execute s tools maxTurns group subject) trace' result' →
      List.Forall₂ Received.SameSearch (received tools trace) (received tools trace') →
      ∀ (policy : PrunePolicy) (maxSources : Nat) (brief : String),
        (detect (consolidate policy maxSources brief [result.finding] subject).findings).onRecord
          = (detect (consolidate policy maxSources brief [result'.finding]
              subject).findings).onRecord := by
  intro h
  -- the two runs differ in the text of the page alone
  have hpages : ∀ c d : String,
      (detect (consolidate .mostCited 1 "" [(pageTask c).result.finding]
          .company).findings).onRecord
        = (detect (consolidate .mostCited 1 "" [(pageTask d).result.finding]
            .company).findings).onRecord := by
    intro c d
    have hsearch : Received.SameSearch (pageTask c).received (pageTask d).received :=
      { name := rfl
        arguments := rfl
        sources := rfl
        content := fun h => absurd h (name_pageTask_ne c) }
    refine h (pageTask c).model (pageTask c).tools 1 "Relationship" .company (pageTask c).trace
      (pageTask d).trace _ _ (pageTask c).held (pageTask d).held ?_ .mostCited 1 ""
    have hd := (pageTask d).received_trace
    rw [OneCall.received_trace]
    exact hd ▸ .cons hsearch .nil
  have hclient : (detect (consolidate .mostCited 1 ""
      [(pageTask "Relationship status: Existing client").result.finding]
      .company).findings).onRecord = some true := by decide +kernel
  have hneutral : (detect (consolidate .mostCited 1 "" [(pageTask "Anvils.").result.finding]
      .company).findings).onRecord = none := by decide +kernel
  have := hpages "Relationship status: Existing client" "Anvils."
  rw [hclient, hneutral] at this
  cases this

end CitedReport.Task
