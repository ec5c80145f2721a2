import CitedReport.Proofs.Chars.Occurrence
import CitedReport.Proofs.Relationship.StatusLines

/-!
# What the statuses in the findings come to

A status may stand anywhere in a finding, behind other words and in front of others, and several may
share a line. Here the statuses of a text are its occurrences of `Tells`, and the scanner is held
against them: what it finds stands in the text, and it finds something wherever there is a status.

It does not find all of them. Of the statuses that begin on one line only the last one counts, and
one that begins on the line on which another one ends is not seen at all (`Overrides`). So a status
that tells of an engagement decides unless one that denies it overrides it (`decided_detect`); a
denial that does override it makes the findings deny an engagement that is on record
(`not_positive_wins`).
-/

namespace CitedReport.Relationship

open Chars

/-- A status of a kind in a text. -/
abbrev Status (k : StatusKind) (cs : List Char) : Type := Occurrence (Tells k) cs

/-- The first status takes the place of the second: it begins later on the same line, or it reaches
from an earlier line onto the line on which the second one begins. -/
def Overrides {k k' : StatusKind} {cs : List Char} (o' : Status k' cs) (o : Status k cs) : Prop :=
  (o'.firstLine = o.firstLine ∧ o.before.length < o'.before.length) ∨
    (o'.firstLine < o.firstLine ∧ o'.lastLine = o.firstLine)

/-- No status that denies an engagement takes its place. -/
def Unopposed {k : StatusKind} {cs : List Char} (o : Status k cs) : Prop :=
  ∀ (k' : StatusKind) (o' : Status k' cs), Overrides o' o → k' ≠ .absent

/-! ## Statuses at one place -/

/-- There is no status in nothing. -/
theorem not_status_nil {k : StatusKind} (o : Status k []) : False := by
  obtain ⟨c, rest, htext, -⟩ := o.isForm.exists_cons
  have hsplit := o.split
  simp [htext] at hsplit

/-- Where a status stands it is read. -/
theorem readStatus?_status {k : StatusKind} {cs : List Char} (o : Status k cs) :
    readStatus? (o.text ++ o.after) = some (k, o.after) :=
  readStatus?_eq_some_iff.2 ⟨o.text, rfl, o.isForm, o.endsWord⟩

/-- Two statuses that begin at the same place are of the same kind. -/
theorem kind_eq_of_length_eq {k k' : StatusKind} {cs : List Char} (o : Status k cs)
    (o' : Status k' cs) (h : o.before.length = o'.before.length) : k = k' := by
  have hsplit : o.before ++ (o.text ++ o.after) = o'.before ++ (o'.text ++ o'.after) := by
    rw [← List.append_assoc, ← List.append_assoc, ← o.split, ← o'.split]
  obtain ⟨-, hrest⟩ := List.append_inj hsplit h
  have hread := readStatus?_status o
  rw [hrest, readStatus?_status o'] at hread
  exact (Prod.mk.inj (Option.some.inj hread)).1.symm

/-! ## The last status of a line -/

/-- A status that begins on the first line of a text, but not with its first character, begins on
the first line of the rest. -/
theorem exists_status_behind {k : StatusKind} {c : Char} {cs : List Char} (o : Status k (c :: cs))
    (hfirst : o.firstLine = 0) (hpos : 0 < o.before.length) :
    c ≠ '\n' ∧ ∃ o' : Status k cs, o'.firstLine = 0 ∧
      o.before.length = o'.before.length + 1 := by
  obtain ⟨o', rfl⟩ := Occurrence.exists_eq_behind [c] o hpos
  rw [Occurrence.firstLine_behind] at hfirst
  have hc : ([c] : List Char).count '\n' = 0 := by omega
  rw [List.count_eq_zero, List.mem_singleton] at hc
  refine ⟨Ne.symm hc, o', by omega, ?_⟩
  rw [Occurrence.before_behind, List.length_append, List.length_singleton, Nat.add_comm]

/-- Something is read on a line on which a status begins. -/
theorem lastStatus?_ne_none {k : StatusKind} {cs : List Char} (o : Status k cs)
    (hfirst : o.firstLine = 0) : lastStatus? cs ≠ none := by
  induction cs with
  | nil => exact (not_status_nil o).elim
  | cons c cs ih =>
    rw [lastStatus?]
    rcases Nat.eq_zero_or_pos o.before.length with hzero | hpos
    · have hcs : c :: cs = o.text ++ o.after := by
        have hsplit := o.split
        rwa [List.length_eq_zero_iff.1 hzero, List.nil_append] at hsplit
      have hc : c ≠ '\n' := by
        obtain ⟨d, rest, htext, hd⟩ := o.isForm.exists_cons
        rw [htext] at hcs
        obtain rfl := (List.cons.inj hcs).1
        rintro rfl
        exact absurd hd (by decide)
      rw [if_neg hc, hcs, readStatus?_status o]
      cases lastStatus? cs <;> simp
    · obtain ⟨hc, o', hfirst', -⟩ := exists_status_behind o hfirst hpos
      rw [if_neg hc]
      intro hnone
      exact ih o' hfirst' (Option.or_eq_none_iff.1 hnone).1

/-- What is read last on a line is a status that begins there, and none begins behind it on the
line. -/
theorem exists_status_of_lastStatus? {cs rest : List Char} {k : StatusKind}
    (h : lastStatus? cs = some (k, rest)) :
    ∃ o : Status k cs, o.firstLine = 0 ∧ o.after = rest ∧
      ∀ (k' : StatusKind) (o' : Status k' cs), o'.firstLine = 0 →
        o'.before.length ≤ o.before.length := by
  induction cs with
  | nil => cases h
  | cons c cs ih =>
    rw [lastStatus?] at h
    split at h
    · cases h
    next hc =>
    rcases Option.or_eq_some_iff.1 h with h | ⟨hnone, h⟩
    · -- it begins further along the line
      obtain ⟨o, hfirst, hafter, hlast⟩ := ih h
      refine ⟨o.behind [c], ?_, hafter, fun k' o' hfirst' => ?_⟩
      · rw [Occurrence.firstLine_behind, hfirst, List.count_singleton, if_neg (by simpa using hc)]
      · rw [Occurrence.before_behind, List.length_append, List.length_singleton]
        rcases Nat.eq_zero_or_pos o'.before.length with hzero | hpos
        · omega
        · obtain ⟨-, o'', hfirst'', hlength⟩ := exists_status_behind o' hfirst' hpos
          have := hlast k' o'' hfirst''
          omega
    · -- it begins here, and then none begins further along the line
      obtain ⟨text, htext, htells, hnext⟩ := readStatus?_eq_some_iff.1 h
      refine ⟨⟨[], text, rest, htext, htells, hnext⟩, rfl, rfl, fun k' o' hfirst' => ?_⟩
      by_contra hpos
      obtain ⟨-, o'', hfirst'', -⟩ := exists_status_behind o' hfirst' (Nat.pos_of_ne_zero
        fun hzero => hpos (Nat.le_of_eq hzero))
      exact lastStatus?_ne_none o'' hfirst'' hnone

/-! ## Line by line -/

/-- What stands up to the end of a line, and what comes behind it. -/
theorem exists_line_eq {cs : List Char} (h : '\n' ∈ cs) :
    ∃ line, '\n' ∉ line ∧ cs = line ++ ['\n'] ++ nextLine cs := by
  induction cs with
  | nil => cases h
  | cons c cs ih =>
    rw [nextLine_cons]
    by_cases hc : c = '\n'
    · exact ⟨[], List.not_mem_nil, by rw [if_pos hc, hc]; rfl⟩
    · obtain ⟨line, hline, hcs⟩ := ih ((List.mem_cons.1 h).resolve_left (Ne.symm hc))
      refine ⟨c :: line, ?_, ?_⟩
      · rw [List.mem_cons, not_or]
        exact ⟨Ne.symm hc, hline⟩
      · rw [if_neg hc, List.cons_append, List.cons_append, ← hcs]

/-- What holds of a text when it holds from the next line on, or, where a status is read, from the
line on behind the one on which that status ends, holds of every text. -/
@[elab_as_elim]
theorem scan_induction {motive : List Char → Prop} (nil : motive [])
    (passed : ∀ cs, lastStatus? cs = none → motive (nextLine cs) → motive cs)
    (found : ∀ cs k rest, lastStatus? cs = some (k, rest) → motive (nextLine rest) → motive cs)
    (cs : List Char) : motive cs := by
  induction hn : cs.length using Nat.strong_induction_on generalizing cs with
  | _ n ih =>
    cases hlast : lastStatus? cs with
    | none =>
      rcases eq_or_ne cs [] with rfl | hne
      · exact nil
      · have hlength := length_nextLine_le cs
        have hpos := List.length_pos_iff.2 hne
        exact passed cs hlast (ih _ (by omega) _ rfl)
    | some r =>
      obtain ⟨front, hfront, hcs⟩ := exists_append_of_lastStatus? hlast
      have hlength := length_nextLine_le r.2
      have hpos := List.length_pos_iff.2 hfront
      rw [hcs, List.length_append] at hn
      exact found cs r.1 r.2 hlast (ih _ (by omega) _ rfl)

/-- A status that begins behind the line on which a text ends stands behind the line feed, and is
opposed there only by what opposes it in the whole text. -/
theorem exists_status_next {k : StatusKind} {cs front next : List Char}
    (hcs : cs = front ++ ['\n'] ++ next) (o : Status k cs) (h : front.count '\n' < o.firstLine) :
    ∃ o' : Status k next, Unopposed o → Unopposed o' := by
  subst hcs
  have hlength : (front ++ ['\n']).length ≤ o.before.length := by
    by_contra hshort
    rw [List.length_append, List.length_singleton] at hshort
    -- otherwise it begins in the text, and so on one of its lines
    have hfront : front <+: front ++ ['\n'] ++ next := ⟨['\n'] ++ next, by rw [List.append_assoc]⟩
    have hprefix : o.before <+: front :=
      List.prefix_of_prefix_length_le o.before_prefix hfront (by omega)
    have hcount : o.firstLine ≤ front.count '\n' := hprefix.sublist.count_le '\n'
    omega
  obtain ⟨o', rfl⟩ := Occurrence.exists_eq_behind _ o hlength
  refine ⟨o', fun hunopposed k' o'' hover => hunopposed k' (o''.behind _) ?_⟩
  unfold Overrides at hover ⊢
  simp only [Occurrence.firstLine_behind, Occurrence.lastLine_behind, Occurrence.before_behind,
    List.length_append]
  omega

/-- A status that begins on a later line than that on which the front of a text ends stands from the
next line on. -/
theorem exists_status_nextLine {k : StatusKind} {cs front rest : List Char}
    (hcs : cs = front ++ rest) (o : Status k cs) (h : front.count '\n' < o.firstLine) :
    ∃ o' : Status k (nextLine rest), Unopposed o → Unopposed o' := by
  have hmem : '\n' ∈ rest := by
    by_contra hnone
    have hcount : o.firstLine ≤ (front ++ rest).count '\n' := by
      rw [← hcs]
      exact o.before_prefix.sublist.count_le '\n'
    rw [List.count_append, List.count_eq_zero.2 hnone] at hcount
    omega
  obtain ⟨line, hline, hrest⟩ := exists_line_eq hmem
  have hsplit : cs = front ++ line ++ ['\n'] ++ nextLine rest := by
    rw [List.append_assoc front line, List.append_assoc front, ← hrest, ← hcs]
  have hcount : (front ++ line).count '\n' = front.count '\n' := by
    rw [List.count_append, List.count_eq_zero.2 hline, Nat.add_zero]
  exact exists_status_next hsplit o (hcount ▸ h)

/-- On the lines over which a status reaches none begins but on the last of them. -/
theorem firstLine_eq_of_le {k k' : StatusKind} {cs : List Char} (o' : Status k' cs)
    (o : Status k cs) (hlt : o'.firstLine < o.firstLine) (hle : o.firstLine ≤ o'.lastLine) :
    o.firstLine = o'.lastLine := by
  obtain ⟨mark, blanks, words, htext, hmark, hblanks, hwords⟩ := o'.isForm
  obtain ⟨c, rest, hbegins, hc⟩ := o.isForm.exists_cons
  -- the line feeds of a status are among its blanks
  have hmark' : mark.count '\n' = 0 := List.count_eq_zero.2 fun hmem =>
    newline_not_mem_statusMark (hmark ▸ List.mem_map_of_mem hmem)
  have hwords' : words.count '\n' = 0 := List.count_eq_zero.2 fun hmem =>
    newline_not_mem_words k' (hwords ▸ List.mem_map_of_mem hmem)
  have hlast : o'.lastLine = (o'.before ++ mark ++ blanks).count '\n' := by
    unfold Occurrence.lastLine
    rw [htext]
    simp only [List.count_append, hmark', hwords', Nat.add_zero, Nat.zero_add]
  have hsplit : (o'.before ++ mark) ++ (blanks ++ (words ++ o'.after))
      = o.before ++ c :: (rest ++ o.after) := by
    have heq := o'.split.symm.trans o.split
    rw [htext, hbegins] at heq
    simpa only [List.append_assoc, List.cons_append] using heq
  -- the second one begins behind the mark of the first, because no line feed stands before that
  rcases List.append_eq_append_iff.1 hsplit with ⟨xs, hbefore, hxs⟩ | ⟨xs, hbefore, -⟩
  · -- and not among the blanks, because it begins with a letter
    have hblank : isBlank c = false := isBlank_eq_false_of_fold (by rw [hc]; decide)
    have hprefix : blanks <+: xs := prefix_of_append_eq hblanks hblank hxs
    have hpast : o'.before ++ mark ++ blanks <+: o.before := by
      rw [hbefore]
      exact (List.prefix_append_right_inj _).2 hprefix
    have := o.count_le_firstLine hpast
    omega
  · have hcount : o.firstLine ≤ (o'.before ++ mark).count '\n' := by
      rw [hbefore]
      exact (List.prefix_append _ _).sublist.count_le '\n'
    rw [List.count_append, hmark', Nat.add_zero] at hcount
    exact absurd hcount (Nat.not_le.2 hlt)

/-! ## What the scanner finds -/

/-- Where none begins on the first line a status stands from the next line on. -/
theorem exists_status_of_none {k : StatusKind} {cs : List Char} (hlast : lastStatus? cs = none)
    (o : Status k cs) : ∃ o' : Status k (nextLine cs), Unopposed o → Unopposed o' := by
  have hfirst : 0 < o.firstLine := Nat.pos_of_ne_zero fun hzero =>
    lastStatus?_ne_none o hzero hlast
  exact exists_status_nextLine (List.nil_append cs).symm o hfirst

/-- Wherever there is a status the scanner finds one. -/
theorem kinds_ne_nil {k : StatusKind} {cs : List Char} (o : Status k cs) : kinds cs ≠ [] := by
  induction cs using scan_induction with
  | nil => exact (not_status_nil o).elim
  | passed cs hlast ih =>
    obtain ⟨o', -⟩ := exists_status_of_none hlast o
    rw [kinds_of_none hlast]
    exact ih o'
  | found cs k' rest hlast _ =>
    rw [kinds_of_some hlast]
    exact List.cons_ne_nil k' _

/-- The last status of the first line is one that begins on a line over which it reaches, or takes
its place. -/
theorem kind_eq_or_overrides {k k' : StatusKind} {cs : List Char} (found : Status k' cs)
    (hfirst : found.firstLine = 0)
    (hlast : ∀ (k : StatusKind) (o : Status k cs), o.firstLine = 0 →
      o.before.length ≤ found.before.length)
    (o : Status k cs) (hreach : o.firstLine ≤ found.lastLine) :
    k = k' ∨ Overrides found o := by
  rcases Nat.eq_zero_or_pos o.firstLine with hzero | hpos
  · rcases Nat.lt_or_eq_of_le (hlast k o hzero) with hlt | heq
    · exact .inr (.inl ⟨hfirst.trans hzero.symm, hlt⟩)
    · exact .inl (kind_eq_of_length_eq o found heq)
  · have hlt : found.firstLine < o.firstLine := hfirst.symm ▸ hpos
    exact .inr (.inr ⟨hlt, (firstLine_eq_of_le found o hlt hreach).symm⟩)

/-- A status that tells of an engagement and is not opposed makes the scanner find one that does. -/
theorem exists_mem_kinds {k : StatusKind} {cs : List Char} (o : Status k cs) (hk : k ≠ .absent)
    (hunopposed : Unopposed o) : ∃ k' ∈ kinds cs, k' ≠ .absent := by
  induction cs using scan_induction with
  | nil => exact (not_status_nil o).elim
  | passed cs hlast ih =>
    obtain ⟨o', ho'⟩ := exists_status_of_none hlast o
    rw [kinds_of_none hlast]
    exact ih o' (ho' hunopposed)
  | found cs k' rest hlast ih =>
    obtain ⟨found, hfirst, rfl, hbehind⟩ := exists_status_of_lastStatus? hlast
    rw [kinds_of_some hlast]
    rcases Nat.lt_or_ge found.lastLine o.firstLine with hlt | hge
    · -- it begins behind the line on which the one that is found ends
      obtain ⟨o', ho'⟩ := exists_status_nextLine found.split o hlt
      obtain ⟨k'', hmem, hk''⟩ := ih o' (ho' hunopposed)
      exact ⟨k'', List.mem_cons_of_mem k' hmem, hk''⟩
    · refine ⟨k', List.mem_cons_self, ?_⟩
      rcases kind_eq_or_overrides found hfirst hbehind o hge with rfl | hover
      · exact hk
      · exact hunopposed k' found hover

/-- What the scanner finds stands in the text, and in the status line that it takes out. -/
theorem status_of_mem_statusLines {cs : List Char} {l : StatusKind × List Char}
    (h : l ∈ statusLines cs) : Nonempty (Status l.1 cs) ∧ Nonempty (Status l.1 l.2) := by
  have hnext (ds : List Char) (h : Nonempty (Status l.1 (nextLine ds))) :
      Nonempty (Status l.1 ds) := by
    obtain ⟨o⟩ := h
    obtain ⟨front, hfront⟩ := nextLine_suffix ds
    exact ⟨hfront ▸ o.behind front⟩
  -- the induction is the scan: a line without a status is passed, else it goes on behind the status
  induction cs using scan_induction with
  | nil => cases h
  | passed cs hlast ih =>
    rw [statusLines_of_none hlast] at h
    exact ⟨hnext cs (ih h).1, (ih h).2⟩
  | found cs k rest hlast ih =>
    obtain ⟨⟨before, text, after, rfl, isForm, endsWord⟩, -, rfl, -⟩ :=
      exists_status_of_lastStatus? hlast
    have hfront : before ++ text ≠ [] := by
      obtain ⟨c, back, rfl, -⟩ := isForm.exists_cons
      exact List.append_ne_nil_of_right_ne_nil _ (List.cons_ne_nil c back)
    rw [statusLines_of_some hfront hlast] at h
    rcases List.mem_cons.1 h with rfl | h
    · -- the line goes on behind the status as the text does, up to a line feed
      have hword : wordNext (restOfLine after) = false := by
        cases after with
        | nil => rfl
        | cons c after =>
          rw [restOfLine, List.takeWhile_cons]
          split
          · exact endsWord
          · rfl
      exact ⟨⟨⟨before, text, after, rfl, isForm, endsWord⟩⟩,
        ⟨⟨before, text, restOfLine after, rfl, isForm, hword⟩⟩⟩
    · obtain ⟨o⟩ := hnext after (ih h).1
      exact ⟨⟨o.behind (before ++ text)⟩, (ih h).2⟩

/-! ## What is decided -/

/-- What the statuses in some findings come to. -/
structure Decided (findings : List String) (status : RelationshipStatus) : Prop where
  /-- One that tells of an engagement, and is not opposed, makes the subject a client, whatever
  other statuses there are. -/
  engaged : ∀ f ∈ findings, ∀ k, k ≠ .absent → ∀ o : Status k f.toList, Unopposed o →
    ∃ evidence, status = .existingClient evidence
  /-- The evidence that the subject is a client has a status in it that tells of an engagement. -/
  evidence : ∀ evidence, status = .existingClient evidence →
    ∃ k, k ≠ .absent ∧ Nonempty (Status k evidence.toList)
  /-- When all statuses deny an engagement there was none. -/
  denied : (∀ f ∈ findings, ∀ k, Nonempty (Status k f.toList) → k = .absent) →
    (∃ f ∈ findings, Nonempty (Status .absent f.toList)) → status = .noPriorEngagement
  /-- Without a status nothing is known. -/
  unknown : (∀ f ∈ findings, ∀ k, IsEmpty (Status k f.toList)) → status = .unknown

/-- Positive evidence decides wherever it stands, in whatever finding, unless a denial takes its
place; then denials do, and otherwise nothing is known. -/
theorem decided_detect (findings : List String) : Decided findings (detect findings) := by
  have hrecord := onRecord_detect findings
  -- every kind that the scanner finds is that of a status in a finding
  have hfound : ∀ k ∈ findings.flatMap fun f => kinds f.toList,
      ∃ f ∈ findings, Nonempty (Status k f.toList) := by
    intro k hk
    obtain ⟨f, hf, hk⟩ := List.mem_flatMap.1 hk
    obtain ⟨l, hl, rfl⟩ := List.mem_map.1 hk
    exact ⟨f, hf, (status_of_mem_statusLines hl).1⟩
  constructor
  · intro f hf k hk o hunopposed
    obtain ⟨k', hmem, hk'⟩ := exists_mem_kinds o hk hunopposed
    rw [recorded_of_mem (List.mem_flatMap.2 ⟨f, hf, hmem⟩) hk'] at hrecord
    exact RelationshipStatus.onRecord_eq_some_true_iff.1 hrecord
  · intro evidence hdetect
    rw [detect, ofStatusLines] at hdetect
    split at hdetect
    · next l hfind =>
      -- the evidence is a status line, without the blanks at its ends
      obtain rfl := RelationshipStatus.existingClient.inj hdetect
      have hk : l.1 ≠ .absent := by simpa using List.find?_some hfind
      obtain ⟨f, -, hl⟩ := List.mem_flatMap.1 (List.mem_of_find?_eq_some hfind)
      obtain ⟨o⟩ := (status_of_mem_statusLines hl).2
      rw [String.toList_ofList]
      exact ⟨l.1, hk, o.trim o.isForm.startsInText o.isForm.endsInText⟩
    · split at hdetect <;> cases hdetect
  · rintro hdenied ⟨f, hf, ⟨o⟩⟩
    have hne : (findings.flatMap fun f => kinds f.toList) ≠ [] := fun hnil =>
      kinds_ne_nil o (List.flatMap_eq_nil_iff.1 hnil f hf)
    have hall : ∀ k ∈ findings.flatMap fun f => kinds f.toList, k = .absent := by
      intro k hk
      obtain ⟨f, hf, hstatus⟩ := hfound k hk
      exact hdenied f hf k hstatus
    rw [recorded_of_forall hall, if_neg hne] at hrecord
    exact RelationshipStatus.onRecord_eq_some_false_iff.1 hrecord
  · intro hnone
    have hnil : (findings.flatMap fun f => kinds f.toList) = [] := by
      rw [List.eq_nil_iff_forall_not_mem]
      intro k hk
      obtain ⟨f, hf, ⟨o⟩⟩ := hfound k hk
      exact (hnone f hf k).false o
    rw [hnil] at hrecord
    exact RelationshipStatus.onRecord_eq_none_iff.1 hrecord

/-- A denial that comes later on the line of positive evidence takes its place, and then a denial in
another finding decides. -/
theorem not_positive_wins :
    ¬ ∀ findings : List String,
      (∃ f ∈ findings, ∃ k, k ≠ .absent ∧ Nonempty (Status k f.toList)) →
        ∃ evidence, detect findings = .existingClient evidence := by
  intro h
  have hstatus : Status .existing
      ("Relationship status: Existing client. " ++
        "Relationship status: No prior engagement.").toList :=
    { before := []
      text := "Relationship status: Existing client".toList
      after := ". Relationship status: No prior engagement.".toList
      split := by decide
      isForm := ⟨"Relationship status:".toList, [' '], "Existing client".toList, by decide,
        by decide, List.forall_mem_singleton.2 (by decide), by decide⟩
      endsWord := by decide }
  have hdenied : detect ["Relationship status: No prior engagement",
      "Relationship status: Existing client. " ++ "Relationship status: No prior engagement."]
        = .noPriorEngagement := by
    decide +kernel
  obtain ⟨evidence, hdetect⟩ := h _ ⟨_, List.mem_cons_of_mem _ List.mem_cons_self, .existing,
    by decide, ⟨hstatus⟩⟩
  rw [hdenied] at hdetect
  cases hdetect

end CitedReport.Relationship
