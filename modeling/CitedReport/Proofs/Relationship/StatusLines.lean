import CitedReport.Proofs.Relationship.Reading

/-!
# Status lines, one after the other

The scanner of status lines goes through a text character by character and passes over a status
line once it has found one. Here it is said line by line: the last status that begins on a line
counts, the search goes on behind the line on which that status ends, and where none begins it goes
on with the next line (`kinds_of_some`, `kinds_of_none`).

A status can reach over line ends only by the blanks between its mark and its kind. So a text can be
cut at a line feed behind which no kind of status comes first, and its status lines are those of the
two parts (`kinds_append_newline`).
-/

namespace CitedReport

open Chars

/-- Whether there was an engagement, as far as anything is on record. -/
def RelationshipStatus.onRecord : RelationshipStatus → Option Bool
  | .existingClient _ => some true
  | .noPriorEngagement => some false
  | .unknown => none

namespace RelationshipStatus

variable {status : RelationshipStatus}

/-- Only an existing client is on record as a client. -/
theorem onRecord_eq_some_true_iff :
    status.onRecord = some true ↔ ∃ evidence, status = .existingClient evidence := by
  cases status <;> simp [onRecord]

/-- Only somebody without prior engagement is on record as none. -/
theorem onRecord_eq_some_false_iff :
    status.onRecord = some false ↔ status = .noPriorEngagement := by
  cases status <;> simp [onRecord]

/-- Nothing is on record just when the status is unknown. -/
theorem onRecord_eq_none_iff : status.onRecord = none ↔ status = .unknown := by
  cases status <;> simp [onRecord]

end RelationshipStatus

namespace Relationship

/-- The kinds of the status lines of a text. -/
def kinds (cs : List Char) : List StatusKind := (statusLines cs).map Prod.fst

/-- An empty text has no status lines. -/
@[simp] theorem kinds_nil : kinds [] = [] := rfl

/-- What is on record according to some status lines. -/
def recorded (ks : List StatusKind) : Option Bool :=
  if ks.any (· ≠ .absent) then some true else if ks = [] then none else some false

/-- A status counts wherever it stands. -/
theorem recorded_perm {ks ks' : List StatusKind} (h : ks.Perm ks') :
    recorded ks = recorded ks' := by
  have hempty : ks = [] ↔ ks' = [] := by
    rw [← List.length_eq_zero_iff, h.length_eq, List.length_eq_zero_iff]
  rw [recorded, recorded, h.any_eq]
  simp only [hempty]

/-- One status that tells of an engagement is enough. -/
theorem recorded_of_mem {ks : List StatusKind} {k : StatusKind} (h : k ∈ ks) (hk : k ≠ .absent) :
    recorded ks = some true :=
  if_pos (List.any_eq_true.2 ⟨k, h, by simpa using hk⟩)

/-- When all deny one there was none, if there are any. -/
theorem recorded_of_forall {ks : List StatusKind} (h : ∀ k ∈ ks, k = .absent) :
    recorded ks = if ks = [] then none else some false := by
  refine if_neg ?_
  rw [Bool.not_eq_true, List.any_eq_false]
  intro k hk
  simp [h k hk]

/-- Only the kinds of the status lines decide what is on record. -/
theorem onRecord_detect (findings : List String) :
    (detect findings).onRecord = recorded (findings.flatMap fun f => kinds f.toList) := by
  have hkinds : (findings.flatMap fun f => kinds f.toList)
      = (findings.flatMap fun f => statusLines f.toList).map Prod.fst := by
    rw [List.map_flatMap]
    rfl
  rw [hkinds, detect, recorded]
  generalize findings.flatMap (fun f => statusLines f.toList) = lines
  rw [ofStatusLines]
  cases hfind : lines.find? fun l => l.1 ≠ .absent with
  | none =>
    have hnone : ∀ l ∈ lines, l.1 = .absent := by simpa using List.find?_eq_none.1 hfind
    have hany : (lines.map Prod.fst).any (· ≠ .absent) = false := by
      simpa [List.any_eq_false] using fun k text => hnone (k, text)
    rw [hany]
    cases lines <;> rfl
  | some l =>
    have hl : l ∈ lines ∧ l.1 ≠ .absent :=
      ⟨List.mem_of_find?_eq_some hfind, by simpa using List.find?_some hfind⟩
    have hany : (lines.map Prod.fst).any (· ≠ .absent) = true :=
      List.any_eq_true.2 ⟨l.1, List.mem_map_of_mem hl.1, by simpa using hl.2⟩
    rw [if_pos hany]
    rfl

/-! ## A status in front of a line feed -/

/-- The words of a kind are on one line. -/
theorem newline_not_mem_words (k : StatusKind) : fold '\n' ∉ k.words := by
  cases k <;> decide

/-- So is the mark of a status. -/
theorem newline_not_mem_statusMark : fold '\n' ∉ statusMark := by decide

/-- A status reader's result with more text behind it. -/
def extend (more : List Char) (r : StatusKind × List Char) : StatusKind × List Char :=
  (r.1, r.2 ++ more)

/-- A word that ends at the end of a text ends before a line feed. -/
theorem afterPhrase?_append_newline {phrase : List Char} (h : fold '\n' ∉ phrase)
    (cs rest : List Char) :
    afterPhrase? phrase (cs ++ '\n' :: rest)
      = (afterPhrase? phrase cs).map (· ++ '\n' :: rest) := by
  -- a line feed is not part of a word, and so ends one as the end of the text does
  have hword : ∀ after : List Char, wordNext (after ++ '\n' :: rest) = wordNext after := by
    intro after
    cases after with
    | nil =>
      change isWord '\n' = false
      decide
    | cons c after => rfl
  rw [afterPhrase?, afterPhrase?, afterFolded?_append_cons h]
  cases afterFolded? phrase cs with
  | none => rfl
  | some after =>
    simp only [Option.map_some, Option.bind_some, hword]
    split <;> rfl

/-- A kind of status at the end of a text is one before a line feed. -/
theorem readKind?_append_newline (cs rest : List Char) :
    readKind? (cs ++ '\n' :: rest) = (readKind? cs).map (extend ('\n' :: rest)) := by
  -- it is so for each kind, and then for the first that is there
  have hkind : ∀ k : StatusKind, (afterPhrase? k.words (cs ++ '\n' :: rest)).map (fun r => (k, r))
      = ((afterPhrase? k.words cs).map fun r => (k, r)).map (extend ('\n' :: rest)) := by
    intro k
    rw [afterPhrase?_append_newline (newline_not_mem_words k)]
    cases afterPhrase? k.words cs <;> rfl
  rw [readKind?, readKind?]
  induction StatusKind.all with
  | nil => rfl
  | cons k ks ih =>
    rw [List.findSome?_cons, List.findSome?_cons, hkind k]
    cases (afterPhrase? k.words cs).map fun r => (k, r) with
    | none => exact ih
    | some r => rfl

/-- The first word of a text is not one of the kinds of status, so that no status from before ends
in it. -/
def StandsApart (cs : List Char) : Prop := readKind? (trimStart cs) = none

instance (cs : List Char) : Decidable (StandsApart cs) :=
  decidable_of_iff ((readKind? (trimStart cs)).isNone = true) Option.isNone_iff_eq_none

/-! ## Texts that are read alike -/

/-- Two readers that are related have both found nothing, or both something. -/
theorem eq_none_or_exists_of_rel {α β : Type} {R : α → β → Prop} {a : Option α} {b : Option β}
    (h : Option.Rel R a b) :
    (a = none ∧ b = none) ∨ ∃ x y, a = some x ∧ b = some y ∧ R x y := by
  cases h with
  | none => exact .inl ⟨rfl, rfl⟩
  | some hxy => exact .inr ⟨_, _, rfl, rfl, hxy⟩

/-- The phrases of which a status is made. -/
def phrases : List (List Char) := statusMark :: StatusKind.all.map StatusKind.words

/-- Texts in this relation cannot be told apart by reading a status at their beginnings. -/
structure ReadAlike (R : List Char → List Char → Prop) : Prop where
  /-- They begin with the same phrases. -/
  phrase : ∀ {cs ds phrase : List Char}, R cs ds → phrase ∈ phrases →
    Option.Rel R (afterFolded? phrase cs) (afterFolded? phrase ds)
  /-- A word goes on in both or in none. -/
  wordNext : ∀ {cs ds : List Char}, R cs ds → wordNext cs = wordNext ds
  /-- So it is behind the blanks in front. -/
  trimStart : ∀ {cs ds : List Char}, R cs ds → R (trimStart cs) (trimStart ds)

namespace ReadAlike

variable {R : List Char → List Char → Prop} (hR : ReadAlike R) {cs ds : List Char}

include hR

/-- They begin with the same kind of status, or with none. -/
theorem readKind? (h : R cs ds) :
    Option.Rel (fun r s => r.1 = s.1 ∧ R r.2 s.2) (readKind? cs) (readKind? ds) := by
  have hkind : ∀ k ∈ StatusKind.all, Option.Rel (fun r s => r.1 = s.1 ∧ R r.2 s.2)
      ((afterPhrase? k.words cs).map fun r => (k, r))
      ((afterPhrase? k.words ds).map fun r => (k, r)) := by
    intro k hk
    have hphrase := hR.phrase h (List.mem_cons_of_mem statusMark (List.mem_map_of_mem hk))
    rw [afterPhrase?, afterPhrase?]
    rcases eq_none_or_exists_of_rel hphrase with ⟨hcs, hds⟩ | ⟨rest, rest', hcs, hds, hrest⟩
    · rw [hcs, hds]
      exact .none
    · rw [hcs, hds]
      simp only [Option.bind_some, hR.wordNext hrest]
      split
      · exact .none
      · exact .some ⟨rfl, hrest⟩
  rw [Relationship.readKind?, Relationship.readKind?]
  -- the kinds are tried in turn, in both texts alike
  generalize StatusKind.all = all at hkind
  induction all with
  | nil => exact .none
  | cons k ks ih =>
    rw [List.findSome?_cons, List.findSome?_cons]
    rcases eq_none_or_exists_of_rel (hkind k List.mem_cons_self) with
      ⟨hcs, hds⟩ | ⟨r, s, hcs, hds, hrs⟩
    · rw [hcs, hds]
      exact ih fun k' hk' => hkind k' (List.mem_cons_of_mem k hk')
    · rw [hcs, hds]
      exact .some hrs

/-- The same status is read from texts that cannot be told apart, and the rests cannot be either. -/
theorem readStatus? (h : R cs ds) :
    Option.Rel (fun r s => r.1 = s.1 ∧ R r.2 s.2) (readStatus? cs) (readStatus? ds) := by
  rw [Relationship.readStatus?, Relationship.readStatus?]
  rcases eq_none_or_exists_of_rel (hR.phrase h List.mem_cons_self) with
    ⟨hcs, hds⟩ | ⟨rest, rest', hcs, hds, hrest⟩
  · rw [hcs, hds]
    exact .none
  · rw [hcs, hds]
    exact hR.readKind? (hR.trimStart hrest)

/-- No status from before ends in one of them if none ends in the other. -/
theorem standsApart (h : R cs ds) (hcs : StandsApart cs) : StandsApart ds := by
  have hkind := hR.readKind? (hR.trimStart h)
  rw [StandsApart] at hcs ⊢
  rcases eq_none_or_exists_of_rel hkind with ⟨-, hds⟩ | ⟨r, s, hcs', -, -⟩
  · exact hds
  · rw [hcs] at hcs'
    cases hcs'

end ReadAlike

/-! ## Cutting a text at a line feed -/

/-- What comes first behind blanks does not come from behind a line feed if the text there stands
apart. -/
theorem readKind?_trimStart_append_newline {rest : List Char} (h : StandsApart rest)
    (cs : List Char) : readKind? (trimStart (cs ++ '\n' :: rest))
      = (readKind? (trimStart cs)).map (extend ('\n' :: rest)) := by
  rw [trimStart, List.dropWhile_append]
  split
  · next hnil =>
    -- there are only blanks in front, so what comes first comes from behind the line feed
    have hblank : isBlank '\n' = true := by decide
    rw [trimStart, List.isEmpty_iff.1 hnil, List.dropWhile_cons, if_pos hblank]
    exact h
  · exact readKind?_append_newline _ rest

/-- A text stands apart when its parts do. -/
theorem StandsApart.append_newline {cs rest : List Char} (hcs : StandsApart cs)
    (h : StandsApart rest) : StandsApart (cs ++ '\n' :: rest) := by
  rw [StandsApart] at hcs ⊢
  rw [readKind?_trimStart_append_newline h, hcs]
  rfl

/-- A status does not reach over a line feed behind which the text stands apart. -/
theorem readStatus?_append_newline {rest : List Char} (h : StandsApart rest) (cs : List Char) :
    readStatus? (cs ++ '\n' :: rest) = (readStatus? cs).map (extend ('\n' :: rest)) := by
  rw [readStatus?, readStatus?, afterFolded?_append_cons newline_not_mem_statusMark]
  cases afterFolded? statusMark cs with
  | none => rfl
  | some after => exact readKind?_trimStart_append_newline h after

/-- The last status of a line is the same without the text that stands apart behind it. -/
theorem lastStatus?_append_newline {rest : List Char} (h : StandsApart rest) (cs : List Char) :
    lastStatus? (cs ++ '\n' :: rest) = (lastStatus? cs).map (extend ('\n' :: rest)) := by
  induction cs with
  | nil => rfl
  | cons c cs ih =>
    rw [List.cons_append, lastStatus?, lastStatus?]
    split
    · rfl
    · rw [ih, ← List.cons_append, readStatus?_append_newline h]
      cases lastStatus? cs <;> rfl

/-! ## Line by line -/

/-- What comes behind the current line. -/
def nextLine (cs : List Char) : List Char := (cs.dropWhile (· ≠ '\n')).drop 1

/-- Nothing comes behind an empty text. -/
@[simp] theorem nextLine_nil : nextLine [] = [] := rfl

/-- The next line comes behind the first line feed. -/
theorem nextLine_cons (c : Char) (cs : List Char) :
    nextLine (c :: cs) = if c = '\n' then cs else nextLine cs := by
  rw [nextLine, List.dropWhile_cons]
  by_cases hc : c = '\n'
  · simp [hc]
  · simp [hc, nextLine]

/-- A line ends at its line feed. -/
theorem nextLine_append_newline (cs rest : List Char) :
    nextLine (cs ++ '\n' :: rest)
      = if '\n' ∈ cs then nextLine cs ++ '\n' :: rest else rest := by
  induction cs with
  | nil => simp [nextLine_cons]
  | cons c cs ih =>
    rw [List.cons_append, nextLine_cons, nextLine_cons, ih]
    by_cases hc : c = '\n'
    · simp [hc]
    · rw [if_neg hc, if_neg hc]
      simp [Ne.symm hc]

/-- The next line is an end of the text. -/
theorem nextLine_suffix (cs : List Char) : nextLine cs <:+ cs :=
  (List.drop_suffix _ _).trans (List.dropWhile_suffix _)

/-- It is shorter than a text that is not empty. -/
theorem length_nextLine_le (cs : List Char) : (nextLine cs).length ≤ cs.length - 1 := by
  induction cs with
  | nil => simp
  | cons c cs ih =>
    rw [nextLine_cons]
    split
    · simp
    · rw [List.length_cons]
      omega

/-- From the end of a line the scanner goes on with the next line, whether a line begins there or
not. -/
theorem statusLinesFrom_lineEnd (atStart : Bool) (cs : List Char)
    (h : ∀ c, cs.head? = some c → c = '\n') :
    statusLinesFrom 0 atStart cs = statusLines (cs.drop 1) := by
  cases cs with
  | nil => rfl
  | cons c cs =>
    obtain rfl : c = '\n' := h c rfl
    have hnone : (if atStart then statusLine? ('\n' :: cs) else none) = none := by
      cases atStart <;> rfl
    rw [statusLinesFrom, hnone]
    rfl

/-- Passing over characters up to the end of a line. -/
theorem statusLinesFrom_append (passed : List Char) (atStart : Bool) (cs : List Char)
    (h : ∀ c, cs.head? = some c → c = '\n') :
    statusLinesFrom passed.length atStart (passed ++ cs) = statusLines (cs.drop 1) := by
  induction passed generalizing atStart with
  | nil => exact statusLinesFrom_lineEnd atStart cs h
  | cons c passed ih => exact ih (c == '\n')

/-- What follows a line begins with a line feed. -/
theorem head?_dropWhile_newline (cs : List Char) (c : Char)
    (h : (cs.dropWhile (· ≠ '\n')).head? = some c) : c = '\n' := by
  have := List.head?_dropWhile_not (fun d : Char => decide (d ≠ '\n')) cs
  rw [h] at this
  simpa using this

/-- Past its beginning the scanner finds nothing on a line. -/
theorem statusLinesFrom_false (cs : List Char) :
    statusLinesFrom 0 false cs = statusLines (nextLine cs) := by
  induction cs with
  | nil => rfl
  | cons c cs ih =>
    have hstep : statusLinesFrom 0 false (c :: cs) = statusLinesFrom 0 (c == '\n') cs := rfl
    rw [hstep, nextLine_cons]
    by_cases hc : c = '\n'
    · rw [if_pos hc, hc]
      rfl
    · have hfalse : (c == '\n') = false := beq_eq_false_iff_ne.2 hc
      rw [if_neg hc, hfalse, ih]

/-- A status has characters. -/
theorem exists_append_of_readStatus? {cs rest : List Char} {k : StatusKind}
    (h : readStatus? cs = some (k, rest)) : ∃ front, front ≠ [] ∧ cs = front ++ rest := by
  obtain ⟨text, hcs, htells, -⟩ := readStatus?_eq_some_iff.1 h
  obtain ⟨c, back, rfl, -⟩ := htells.exists_cons
  exact ⟨c :: back, List.cons_ne_nil c back, hcs⟩

/-- A status takes up some of the text. -/
theorem exists_append_of_lastStatus? {cs rest : List Char} {k : StatusKind}
    (h : lastStatus? cs = some (k, rest)) : ∃ front, front ≠ [] ∧ cs = front ++ rest := by
  induction cs with
  | nil => cases h
  | cons c cs ih =>
    rw [lastStatus?] at h
    split at h
    · cases h
    · rcases Option.or_eq_some_iff.1 h with h | ⟨-, h⟩
      · obtain ⟨front, -, rfl⟩ := ih h
        exact ⟨c :: front, List.cons_ne_nil c front, rfl⟩
      · exact exists_append_of_readStatus? h

/-- A line on which a status begins is a status line, which reaches up to the end of the line on
which the status ends. -/
theorem statusLines_of_some {front rest : List Char} {k : StatusKind} (hfront : front ≠ [])
    (h : lastStatus? (front ++ rest) = some (k, rest)) :
    statusLines (front ++ rest) = (k, front ++ restOfLine rest) :: statusLines (nextLine rest) := by
  obtain ⟨c, front, rfl⟩ := List.exists_cons_of_ne_nil hfront
  have hrest : rest = restOfLine rest ++ rest.dropWhile (· ≠ '\n') :=
    List.takeWhile_append_dropWhile.symm
  have hsplit : front ++ rest = front ++ restOfLine rest ++ rest.dropWhile (· ≠ '\n') := by
    rw [List.append_assoc, ← hrest]
  -- the status line is the front with the rest of the line
  have hlength : (c :: front ++ rest).length - rest.length + (restOfLine rest).length
      = (c :: front ++ restOfLine rest).length := by
    simp only [List.length_append, List.length_cons]
    omega
  have htake : (c :: front ++ rest).take (c :: front ++ restOfLine rest).length
      = c :: front ++ restOfLine rest := by
    have hline : c :: front ++ rest
        = (c :: front ++ restOfLine rest) ++ rest.dropWhile (· ≠ '\n') := by
      rw [List.append_assoc, ← hrest]
    rw [hline, List.take_left]
  -- and the scanner passes over it up to its last character
  have hpassed : statusLinesFrom (front ++ restOfLine rest).length false (front ++ rest)
      = statusLines (nextLine rest) := by
    rw [hsplit, statusLinesFrom_append _ _ _ (head?_dropWhile_newline rest), nextLine]
  rw [statusLines, List.cons_append, statusLinesFrom, if_pos rfl, statusLine?,
    ← List.cons_append, h]
  simp only [Option.map_some]
  rw [hlength, htake]
  exact congrArg _ hpassed

/-- A line on which no status begins is none. -/
theorem statusLines_of_none {cs : List Char} (h : lastStatus? cs = none) :
    statusLines cs = statusLines (nextLine cs) := by
  cases cs with
  | nil => rfl
  | cons c cs =>
    have hline : statusLine? (c :: cs) = none := by rw [statusLine?, h]; rfl
    rw [statusLines, statusLinesFrom, if_pos rfl, hline, nextLine_cons]
    by_cases hc : c = '\n'
    · rw [if_pos hc, hc]
      rfl
    · have hfalse : (c == '\n') = false := beq_eq_false_iff_ne.2 hc
      rw [if_neg hc, hfalse, ← statusLinesFrom_false]

/-- The kind of the last status on a line comes first, and then those from the next line on. -/
theorem kinds_of_some {cs rest : List Char} {k : StatusKind}
    (h : lastStatus? cs = some (k, rest)) : kinds cs = k :: kinds (nextLine rest) := by
  obtain ⟨front, hfront, rfl⟩ := exists_append_of_lastStatus? h
  rw [kinds, statusLines_of_some hfront h]
  rfl

/-- A line without a status is passed over. -/
theorem kinds_of_none {cs : List Char} (h : lastStatus? cs = none) :
    kinds cs = kinds (nextLine cs) := by
  rw [kinds, statusLines_of_none h]
  rfl

/-- The status lines of a text are those in front of a line feed and those behind it, if what is
behind it stands apart. -/
theorem kinds_append_newline {rest : List Char} (h : StandsApart rest) (cs : List Char) :
    kinds (cs ++ '\n' :: rest) = kinds cs ++ kinds rest := by
  -- a status line can take several lines, so the induction is on the length
  induction hn : cs.length using Nat.strong_induction_on generalizing cs with
  | _ n ih =>
    -- behind the current line of some part of the text
    have hnext : ∀ ds : List Char, ds.length ≤ n →
        kinds (nextLine (ds ++ '\n' :: rest)) = kinds (nextLine ds) ++ kinds rest := by
      intro ds hds
      have hlength := length_nextLine_le ds
      rw [nextLine_append_newline]
      split
      · next hmem =>
        have := List.length_pos_of_mem hmem
        exact ih _ (by omega) (nextLine ds) rfl
      · next hmem =>
        have hlast : nextLine ds = [] := by
          rw [nextLine, List.dropWhile_eq_nil_iff.2 fun c hc => ?_]
          · rfl
          · rw [decide_eq_true_eq]
            rintro rfl
            exact hmem hc
        rw [hlast]
        rfl
    cases hlast : lastStatus? cs with
    | none =>
      have hwhole : lastStatus? (cs ++ '\n' :: rest) = none := by
        rw [lastStatus?_append_newline h, hlast]
        rfl
      rw [kinds_of_none hwhole, kinds_of_none hlast, hnext cs (Nat.le_of_eq hn)]
    | some r =>
      have hwhole : lastStatus? (cs ++ '\n' :: rest) = some (r.1, r.2 ++ '\n' :: rest) := by
        rw [lastStatus?_append_newline h, hlast]
        rfl
      obtain ⟨front, -, hfront⟩ := exists_append_of_lastStatus? hlast
      have hlength : r.2.length ≤ n := by
        rw [← hn, hfront, List.length_append]
        omega
      rw [kinds_of_some hwhole, kinds_of_some hlast, hnext r.2 hlength, List.cons_append]

/-! ## Texts without a mark -/

/-- The mark of a status is nowhere in the text. -/
def Unmarked (cs : List Char) : Prop :=
  ∀ rest, rest <:+ cs → afterFolded? statusMark rest = none

/-- There is no mark in an empty text. -/
theorem unmarked_nil : Unmarked [] := by
  intro rest hrest
  rw [List.suffix_nil.1 hrest]
  rfl

/-- A text has no mark if none begins it and none is in the rest. -/
theorem unmarked_cons {c : Char} {cs : List Char} :
    Unmarked (c :: cs) ↔ afterFolded? statusMark (c :: cs) = none ∧ Unmarked cs := by
  constructor
  · exact fun h => ⟨h _ (List.suffix_refl _), fun rest hrest =>
      h rest (hrest.trans (List.suffix_cons c cs))⟩
  · rintro ⟨hhere, h⟩ rest hrest
    rcases List.suffix_cons_iff.1 hrest with rfl | hrest
    · exact hhere
    · exact h rest hrest

instance decidableUnmarked : (cs : List Char) → Decidable (Unmarked cs)
  | [] => isTrue unmarked_nil
  | c :: cs =>
    have := decidableUnmarked cs
    have : Decidable (afterFolded? statusMark (c :: cs) = none) :=
      decidable_of_iff _ Option.isNone_iff_eq_none
    decidable_of_iff _ unmarked_cons.symm

/-- A beginning of a text has no mark if the text has none. -/
theorem Unmarked.of_append {cs rest : List Char} (h : Unmarked (cs ++ rest)) : Unmarked cs := by
  rintro tail ⟨front, rfl⟩
  have hwhole := h (tail ++ rest) ⟨front, by rw [List.append_assoc]⟩
  cases hread : afterFolded? statusMark tail with
  | none => rfl
  | some after =>
    obtain ⟨mark, rfl, hmark⟩ := afterFolded?_eq_some_iff.1 hread
    rw [afterFolded?_eq_some_iff.2 ⟨mark, List.append_assoc .., hmark⟩] at hwhole
    cases hwhole

/-- No mark begins in characters with which it does not begin. -/
theorem Unmarked.append_left {cs : List Char} (h : Unmarked cs) {front : List Char}
    (hfront : ∀ c ∈ front, fold c ≠ 'r') : Unmarked (front ++ cs) := by
  induction front with
  | nil => exact h
  | cons c front ih =>
    have hmark : afterFolded? statusMark (c :: (front ++ cs)) = none :=
      if_neg fun hc => hfront c List.mem_cons_self hc.symm
    exact unmarked_cons.2 ⟨hmark, ih fun d hd => hfront d (List.mem_cons_of_mem c hd)⟩

/-- A text without a mark has no status lines. -/
theorem kinds_of_unmarked {cs : List Char} (h : Unmarked cs) : kinds cs = [] := by
  have hlast : ∀ {ds : List Char}, Unmarked ds → lastStatus? ds = none := by
    intro ds hds
    induction ds with
    | nil => rfl
    | cons c ds ih =>
      obtain ⟨hhere, hlater⟩ := unmarked_cons.1 hds
      have hstatus : readStatus? (c :: ds) = none := by
        rw [readStatus?, hhere]
        rfl
      rw [lastStatus?, ih hlater, hstatus]
      exact ite_self none
  induction hn : cs.length using Nat.strong_induction_on generalizing cs with
  | _ n ih =>
    cases cs with
    | nil => rfl
    | cons c cs =>
      have hlength := length_nextLine_le (c :: cs)
      rw [List.length_cons] at hn hlength
      rw [kinds_of_none (hlast h)]
      exact ih _ (by omega) (fun rest hrest => h rest (hrest.trans (nextLine_suffix _))) rfl

end Relationship

end CitedReport
