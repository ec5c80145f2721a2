import CitedReport.WebAddress
import CitedReport.Proofs.Chars.Fold
import CitedReport.Proofs.Chars.Search
import CitedReport.Proofs.Chars.Trim

/-!
# Reading a web address

A web address is read by taking as much as possible, part by part, and trying the next possibility
where a part cannot be read. So what is taken may depend on what follows. It does not depend on what
follows behind the address, though: the possibilities that come first and cannot be read from a text
cannot be read from a shorter one either (`ReadsHost`). An address is therefore read from its own
text as it was read from the text that it was found in, and still is when the punctuation behind it
is taken off (`read?_dropEndWhile`).
-/

namespace CitedReport.WebAddress

open Chars

/-! ## Readers -/

/-- A reader takes the beginnings of some form, and which one it takes is seen from it alone. -/
def Takes (form : List Char → Prop) (reader : List Char → Option (List Char)) : Prop :=
  ∀ cs rest, reader cs = some rest ↔ ∃ front, cs = front ++ rest ∧ form front

section

variable {form : List Char → Prop} {reader : List Char → Option (List Char)}

/-- What a reader takes it takes from a longer text, too. -/
theorem Takes.append (h : Takes form reader) {cs rest : List Char} (hread : reader cs = some rest)
    (more : List Char) : reader (cs ++ more) = some (rest ++ more) := by
  obtain ⟨front, rfl, hfront⟩ := (h _ _).1 hread
  exact (h _ _).2 ⟨front, List.append_assoc .., hfront⟩

/-- And from a shorter one that is cut behind it. -/
theorem Takes.cut (h : Takes form reader) {cs rest more : List Char}
    (hread : reader (cs ++ more) = some (rest ++ more)) : reader cs = some rest := by
  obtain ⟨front, heq, hfront⟩ := (h _ _).1 hread
  rw [← List.append_assoc] at heq
  exact (h _ _).2 ⟨front, List.append_cancel_right heq, hfront⟩

end

/-- A text of the form of a host name: it has no blanks and ends in a letter. -/
structure HostLike (cs : List Char) : Prop where
  /-- It has no blanks. -/
  noBlank : ∀ c ∈ cs, isBlank c = false
  /-- It ends in a letter. -/
  letter : ∃ c ∈ cs.getLast?, isFoldedLetter c = true

/-- A host name keeps its form with text without blanks in front. -/
theorem HostLike.append_left {cs : List Char} (h : HostLike cs) {front : List Char}
    (hfront : ∀ c ∈ front, isBlank c = false) : HostLike (front ++ cs) := by
  obtain ⟨c, hc, hletter⟩ := h.letter
  refine ⟨fun d hd => ?_, c, ?_, hletter⟩
  · rcases List.mem_append.1 hd with hd | hd
    · exact hfront d hd
    · exact h.noBlank d hd
  · rw [Option.mem_def] at hc ⊢
    rw [List.getLast?_append, hc]
    rfl

/-- A reader of host names. What it takes from a text does not depend on what follows there. -/
structure ReadsHost (reader : List Char → Option (List Char)) : Prop where
  /-- It takes a text of the form of a host name. -/
  hostLike : ∀ {cs rest}, reader cs = some rest → ∃ front, cs = front ++ rest ∧ HostLike front
  /-- It takes the same when the text is cut somewhere behind it. -/
  cut : ∀ {cs rest more}, reader (cs ++ more) = some (rest ++ more) → reader cs = some rest
  /-- It takes something from a longer text if it does from a shorter one. -/
  isSome : ∀ {cs}, (reader cs).isSome = true → ∀ more, (reader (cs ++ more)).isSome = true

namespace ReadsHost

variable {reader reader' : List Char → Option (List Char)}

/-- The second possibility is only tried when the first one cannot be read. -/
theorem or (h : ReadsHost reader) (h' : ReadsHost reader') :
    ReadsHost fun cs => (reader cs).or (reader' cs) where
  hostLike hread := by
    rcases Option.or_eq_some_iff.1 hread with hread | ⟨-, hread⟩
    · exact h.hostLike hread
    · exact h'.hostLike hread
  cut {cs rest more} hread := by
    rcases Option.or_eq_some_iff.1 hread with hread | ⟨hnone, hread⟩
    · rw [h.cut hread, Option.some_or]
    · have hfirst : reader cs = none := by
        by_contra hne
        have hsome := h.isSome (Option.isSome_iff_ne_none.2 hne) more
        rw [hnone] at hsome
        cases hsome
      rw [hfirst, Option.none_or, h'.cut hread]
  isSome {cs} hread more := by
    rw [Option.isSome_or, Bool.or_eq_true] at hread ⊢
    exact hread.imp (fun hread => h.isSome hread more) fun hread => h'.isSome hread more

/-- Something without blanks may stand in front of a host name. -/
theorem behind (h : ReadsHost reader) {form : List Char → Prop}
    {front? : List Char → Option (List Char)} (hfront : Takes form front?)
    (hform : ∀ {front}, form front → ∀ c ∈ front, isBlank c = false) :
    ReadsHost fun cs => (front? cs).bind reader where
  hostLike {cs rest} hread := by
    obtain ⟨middle, hfirst, hhost⟩ := Option.bind_eq_some_iff.1 hread
    obtain ⟨front, rfl, hf⟩ := (hfront _ _).1 hfirst
    obtain ⟨host, rfl, hlike⟩ := h.hostLike hhost
    exact ⟨front ++ host, (List.append_assoc ..).symm, hlike.append_left (hform hf)⟩
  cut {cs rest more} hread := by
    obtain ⟨middle, hfirst, hhost⟩ := Option.bind_eq_some_iff.1 hread
    obtain ⟨host, hmiddle, -⟩ := h.hostLike hhost
    rw [← List.append_assoc] at hmiddle
    subst hmiddle
    rw [hfront.cut hfirst, Option.bind_some, h.cut hhost]
  isSome {cs} hread more := by
    obtain ⟨rest, hrest⟩ := Option.isSome_iff_exists.1 hread
    obtain ⟨middle, hfirst, hhost⟩ := Option.bind_eq_some_iff.1 hrest
    rw [hfront.append hfirst more, Option.bind_some]
    exact h.isSome (Option.isSome_of_eq_some hhost) more

end ReadsHost

/-! ## Host names -/

/-- A letter is no blank. -/
theorem isBlank_eq_false_of_isFoldedLetter {c : Char} (h : isFoldedLetter c = true) :
    isBlank c = false := by
  refine isBlank_eq_false_of_fold ?_
  rw [Bool.eq_false_iff]
  intro hblank
  have hcodes := toNat_mem_blankCodes hblank
  simp only [isFoldedLetter, isAsciiLetter, Bool.or_eq_true, Bool.and_eq_true, decide_eq_true_eq]
    at h
  simp only [blankCodes, List.mem_cons, List.not_mem_nil, or_false] at hcodes
  omega

/-- No character of a label is a blank. -/
theorem isBlank_eq_false_of_isLabelChar {c : Char} (h : isLabelChar c = true) :
    isBlank c = false := by
  simp only [isLabelChar, Bool.or_eq_true, beq_iff_eq] at h
  rcases h with (h | h) | rfl
  · exact isBlank_eq_false_of_isFoldedLetter h
  · exact isBlank_eq_false_of_isDigit (isDigit_of_isAsciiDigit h)
  · decide

/-- A label and its point. -/
def IsLabel (front : List Char) : Prop :=
  ∃ label, front = label ++ ['.'] ∧ (∀ c ∈ label, isLabelChar c = true) ∧
    ¬ (label = [] ∨ label.head? = some '-' ∨ label.getLast? = some '-')

/-- A label is taken with its point. -/
theorem takes_afterLabel? : Takes IsLabel afterLabel? := by
  intro cs rest
  rw [afterLabel?]
  constructor
  · intro h
    split at h
    · cases h
    · next hlabel =>
      rw [after?_eq_some_iff] at h
      refine ⟨cs.takeWhile isLabelChar ++ ['.'], ?_, _, rfl, fun c => List.mem_takeWhile_imp,
        hlabel⟩
      rw [List.append_assoc, ← h, List.takeWhile_append_dropWhile]
  · rintro ⟨front, rfl, label, rfl, hall, hlabel⟩
    have hstop : ∀ c, (['.'] ++ rest).head? = some c → isLabelChar c = false := by
      intro c hc
      obtain rfl : '.' = c := by simpa using hc
      decide
    rw [List.append_assoc, takeWhile_append_stop hall hstop, dropWhile_append_stop hall hstop,
      if_neg hlabel]
    exact after?_eq_some_iff.2 rfl

/-- There are no blanks in a label. -/
theorem IsLabel.noBlank {front : List Char} (h : IsLabel front) : ∀ c ∈ front, isBlank c = false := by
  obtain ⟨label, rfl, hall, -⟩ := h
  intro c hc
  rcases List.mem_append.1 hc with hc | hc
  · exact isBlank_eq_false_of_isLabelChar (hall c hc)
  · rw [List.mem_singleton.1 hc]
    decide

/-- What follows a label is shorter. -/
theorem length_lt_of_afterLabel? {cs rest : List Char} (h : afterLabel? cs = some rest) :
    rest.length < cs.length := by
  obtain ⟨front, rfl, label, rfl, -, -⟩ := (takes_afterLabel? _ _).1 h
  simp only [List.length_append, List.length_singleton]
  omega

/-- A run of letters has the form of a host name. -/
theorem hostLike_of_isRun {cs : List Char} (h : IsRun isFoldedLetter cs) : HostLike cs where
  noBlank := fun c hc => isBlank_eq_false_of_isFoldedLetter (h.all c hc)
  letter := ⟨cs.getLast h.ne_nil, List.getLast?_eq_some_getLast h.ne_nil,
    h.all _ (List.getLast_mem h.ne_nil)⟩

/-- More text behind means more letters in front only when there is nothing but letters. -/
theorem length_takeWhile_append {p : Char → Bool} (cs more : List Char) :
    ((cs ++ more).takeWhile p).length = (cs.takeWhile p).length ∨
      (cs.takeWhile p).length = cs.length ∧ cs.length ≤ ((cs ++ more).takeWhile p).length := by
  rw [List.takeWhile_append]
  split
  · next h => exact .inr ⟨h, by rw [List.length_append]; omega⟩
  · exact .inl rfl

/-- Some of the letters at the beginning are a run of letters. -/
theorem isRun_take {p : Char → Bool} {cs : List Char} {n : Nat} (hpos : 0 < n)
    (hle : n ≤ (cs.takeWhile p).length) : IsRun p (cs.take n) where
  ne_nil := by
    have hletters := (List.takeWhile_prefix (l := cs) p).length_le
    rw [← List.length_pos_iff, List.length_take]
    omega
  all := fun c hc => by
    have hmem := (List.take_prefix_take_left hle).subset hc
    rw [← List.prefix_iff_eq_take.1 (List.takeWhile_prefix p)] at hmem
    exact List.mem_takeWhile_imp hmem

/-- The last part is read when there are letters enough. -/
theorem afterTopLevel?_eq_some_iff {cs rest : List Char} :
    afterTopLevel? cs = some rest ↔ 2 ≤ (cs.takeWhile isFoldedLetter).length ∧
      cs.drop (min (cs.takeWhile isFoldedLetter).length 24) = rest := by
  rw [afterTopLevel?]
  split
  · next hfew => exact iff_of_false nofun fun hletters => by omega
  · next hfew => rw [Option.some.injEq, and_iff_right (show 2 ≤ _ by omega)]

/-- A top-level name reads as a host name. -/
theorem readsHost_afterTopLevel? : ReadsHost afterTopLevel? where
  hostLike {cs rest} hread := by
    obtain ⟨hletters, rfl⟩ := afterTopLevel?_eq_some_iff.1 hread
    exact ⟨_, (List.take_append_drop _ cs).symm,
      hostLike_of_isRun (isRun_take (by omega) (Nat.min_le_left _ _))⟩
  cut {cs rest more} hread := by
    obtain ⟨hletters, hdrop⟩ := afterTopLevel?_eq_some_iff.1 hread
    have hlength := congrArg List.length hdrop
    rw [List.length_drop, List.length_append, List.length_append] at hlength
    have hle := (List.takeWhile_prefix (l := cs ++ more) isFoldedLetter).length_le
    rw [List.length_append] at hle
    -- no more letters are taken than there are in the shorter text
    have hsame : min (cs.takeWhile isFoldedLetter).length 24
        = min ((cs ++ more).takeWhile isFoldedLetter).length 24 := by
      rcases length_takeWhile_append (p := isFoldedLetter) cs more with h | h
      · rw [h]
      · omega
    rw [← hsame, List.drop_append_of_le_length (by omega)] at hdrop
    exact afterTopLevel?_eq_some_iff.2 ⟨by omega, List.append_cancel_right hdrop⟩
  isSome {cs} hread more := by
    obtain ⟨rest, hrest⟩ := Option.isSome_iff_exists.1 hread
    obtain ⟨hletters, -⟩ := afterTopLevel?_eq_some_iff.1 hrest
    have hmore : 2 ≤ ((cs ++ more).takeWhile isFoldedLetter).length := by
      rcases length_takeWhile_append (p := isFoldedLetter) cs more with h | h
      · rwa [h]
      · omega
    exact Option.isSome_of_eq_some (afterTopLevel?_eq_some_iff.2 ⟨hmore, rfl⟩)

/-- Labels in front of a top-level name read as a host name. -/
theorem readsHost_afterHost? (fuel : Nat) : ReadsHost (afterHost? fuel) := by
  induction fuel with
  | zero => exact ⟨nofun, nofun, nofun⟩
  | succ fuel ih =>
    have heq : afterHost? (fuel + 1)
        = fun cs => (afterLabel? cs).bind fun rest => (afterHost? fuel rest).or (afterTopLevel? rest) := by
      funext cs
      rw [afterHost?]
      cases afterLabel? cs <;> rfl
    rw [heq]
    exact (ih.or readsHost_afterTopLevel?).behind takes_afterLabel? IsLabel.noBlank

/-- A text holds no more labels than characters. -/
theorem afterHost?_eq_of_le {fuel fuel' : Nat} {cs : List Char} (h : cs.length ≤ fuel)
    (h' : cs.length ≤ fuel') : afterHost? fuel cs = afterHost? fuel' cs := by
  -- without a label there is no host name, whatever the number
  have hnone : ∀ n, afterLabel? cs = none → afterHost? n cs = none := by
    intro n hlabel
    cases n with
    | zero => rfl
    | succ n => rw [afterHost?, hlabel]
  cases hlabel : afterLabel? cs with
  | none => rw [hnone _ hlabel, hnone _ hlabel]
  | some rest =>
    have hlt := length_lt_of_afterLabel? hlabel
    obtain ⟨n, rfl⟩ := Nat.exists_eq_add_one_of_ne_zero (show fuel ≠ 0 by omega)
    obtain ⟨n', rfl⟩ := Nat.exists_eq_add_one_of_ne_zero (show fuel' ≠ 0 by omega)
    have hrest : afterHost? n rest = afterHost? n' rest :=
      afterHost?_eq_of_le (by omega) (by omega)
    rw [afterHost?, afterHost?, hlabel]
    simp only [hrest]
termination_by cs.length

/-- What follows a host name. -/
def host? (cs : List Char) : Option (List Char) := afterHost? cs.length cs

/-- A host name is read with fuel enough for all of its labels. -/
theorem readsHost_host? : ReadsHost host? where
  hostLike := fun hread => (readsHost_afterHost? _).hostLike hread
  cut {cs rest more} hread := by
    have hcut := (readsHost_afterHost? _).cut hread
    rwa [afterHost?_eq_of_le (List.length_append ▸ Nat.le_add_right ..) le_rfl] at hcut
  isSome {cs} hread more := by
    rw [host?, afterHost?_eq_of_le le_rfl (List.length_append ▸ Nat.le_add_right _ more.length)]
      at hread
    exact (readsHost_afterHost? _).isSome hread more

/-! ## Phrases in front of host names -/

/-- A phrase is taken in any letter case. -/
theorem takes_afterFolded? (phrase : List Char) :
    Takes (fun front => front.map fold = phrase) (afterFolded? phrase) :=
  fun _ _ => afterFolded?_eq_some_iff

/-- What is read as a phrase without blanks has none. -/
theorem noBlank_of_map_fold {phrase front : List Char} (h : front.map fold = phrase)
    (hphrase : ∀ c ∈ phrase, isBlank c = false) : ∀ c ∈ front, isBlank c = false :=
  fun _ hc => isBlank_eq_false_of_fold (hphrase _ (h ▸ List.mem_map_of_mem hc))

/-- One of the two schemes, in any letter case. -/
def IsScheme (front : List Char) : Prop :=
  front.map fold = "https://".toList ∨ front.map fold = "http://".toList

/-- There are no blanks in a scheme. -/
theorem IsScheme.noBlank {front : List Char} (h : IsScheme front) :
    ∀ c ∈ front, isBlank c = false := by
  rcases h with h | h
  · exact noBlank_of_map_fold h (by decide)
  · exact noBlank_of_map_fold h (by decide)

/-- A scheme is taken. -/
theorem takes_afterScheme? : Takes IsScheme afterScheme? := by
  intro cs rest
  rw [afterScheme?, Option.or_eq_some_iff, afterFolded?_eq_some_iff, afterFolded?_eq_some_iff]
  constructor
  · rintro (⟨front, heq, hfront⟩ | ⟨-, front, heq, hfront⟩)
    · exact ⟨front, heq, .inl hfront⟩
    · exact ⟨front, heq, .inr hfront⟩
  · rintro ⟨front, rfl, hfront | hfront⟩
    · exact .inl ⟨front, rfl, hfront⟩
    · -- where the short scheme ends, the long one goes on with another character
      refine .inr ⟨?_, front, rfl, hfront⟩
      rw [Option.eq_none_iff_forall_ne_some]
      intro rest' hlong
      obtain ⟨front', heq, hfront'⟩ := afterFolded?_eq_some_iff.1 hlong
      have hfold := congrArg (List.map fold) heq
      rw [List.map_append, List.map_append, hfront, hfront'] at hfold
      simp at hfold

/-- What follows a host name with or without `www.` in front. -/
def site? (cs : List Char) : Option (List Char) :=
  ((afterFolded? "www.".toList cs).bind host?).or (host? cs)

/-- What follows a host name with or without a scheme and `www.` in front. -/
def place? (cs : List Char) : Option (List Char) :=
  ((afterScheme? cs).bind site?).or (site? cs)

/-- A host name is read with a scheme and `www.` in front, or without. -/
theorem readsHost_place? : ReadsHost place? := by
  have hsite : ReadsHost site? :=
    (readsHost_host?.behind (takes_afterFolded? _)
      fun h => noBlank_of_map_fold h (by decide)).or readsHost_host?
  exact (hsite.behind takes_afterScheme? IsScheme.noBlank).or hsite

/-- Of the places where a host name may start, the first one that can be read is taken. -/
theorem findSome?_hostStarts (cs : List Char) :
    ((hostStarts cs).findSome? fun start => afterHost? start.length start) = place? cs := by
  have hsite : ∀ rest, ((afterFolded? "www.".toList rest).toList ++ [rest]).findSome? host?
      = site? rest := by
    intro rest
    rw [List.findSome?_append, List.findSome?_singleton, site?]
    cases afterFolded? "www.".toList rest with
    | none => rfl
    | some behind => rw [Option.toList_some, List.findSome?_singleton, Option.bind_some]
  change (hostStarts cs).findSome? host? = place? cs
  rw [hostStarts, List.flatMap_append, List.findSome?_append, List.flatMap_singleton, hsite, place?]
  cases afterScheme? cs with
  | none => rfl
  | some behind => rw [Option.toList_some, List.flatMap_singleton, hsite, Option.bind_some]

/-! ## What stands behind a host name -/

/-- A port, or nothing. -/
def IsPort (port : List Char) : Prop :=
  port = [] ∨ ∃ digits, port = ':' :: digits ∧ IsRun isDigit digits

/-- A path, or nothing. -/
def IsPath (path : List Char) : Prop :=
  path = [] ∨ ∃ steps, path = '/' :: steps ∧ ∀ c ∈ steps, isBlank c = false

/-- A port is passed over if there is one. -/
theorem exists_afterPort (cs : List Char) : ∃ port, IsPort port ∧ cs = port ++ afterPort cs := by
  unfold afterPort
  split
  · next rest =>
    split
    · exact ⟨[], .inl rfl, rfl⟩
    · next hne =>
      refine ⟨':' :: rest.takeWhile isDigit,
        .inr ⟨_, rfl, hne, fun c => List.mem_takeWhile_imp⟩, ?_⟩
      rw [List.cons_append, List.takeWhile_append_dropWhile]
  · exact ⟨[], .inl rfl, rfl⟩

/-- So is a path. -/
theorem exists_afterPath (cs : List Char) : ∃ path, IsPath path ∧ cs = path ++ afterPath cs := by
  unfold afterPath
  split
  · next rest =>
    refine ⟨'/' :: rest.takeWhile fun c => !isBlank c, .inr ⟨_, rfl, fun c hc => ?_⟩, ?_⟩
    · simpa using List.mem_takeWhile_imp hc
    · rw [List.cons_append, List.takeWhile_append_dropWhile]
  · exact ⟨[], .inl rfl, rfl⟩

/-- Behind a port and a path that nothing follows, nothing is left. -/
theorem afterPath_afterPort {port path : List Char} (hport : IsPort port) (hpath : IsPath path) :
    afterPath (afterPort (port ++ path)) = [] := by
  have hafter : afterPort (port ++ path) = path := by
    rcases hport with rfl | ⟨digits, rfl, hdigits⟩
    · rcases hpath with rfl | ⟨steps, rfl, -⟩ <;> rfl
    · have hstop : ∀ c, path.head? = some c → isDigit c = false := by
        rcases hpath with rfl | ⟨steps, rfl, -⟩
        · exact nofun
        · intro c hc
          obtain rfl : '/' = c := by simpa using hc
          decide
      rw [List.cons_append, afterPort, takeWhile_append_stop hdigits.all hstop,
        if_neg hdigits.ne_nil, dropWhile_append_stop hdigits.all hstop]
  rw [hafter]
  rcases hpath with rfl | ⟨steps, rfl, hsteps⟩
  · rfl
  · exact List.dropWhile_eq_nil_iff.2 fun c hc => by rw [hsteps c hc, Bool.not_false]

/-- A text that was read consists of a host name, a port and a path. -/
theorem exists_parts {cs text : List Char} (h : read? cs = some text) :
    ∃ host port path back, text = host ++ port ++ path ∧ cs = host ++ port ++ path ++ back ∧
      place? cs = some (port ++ path ++ back) ∧ HostLike host ∧ IsPort port ∧ IsPath path := by
  rw [read?, findSome?_hostStarts, Option.map_eq_some_iff] at h
  obtain ⟨rest, hread, htext⟩ := h
  obtain ⟨host, hcs, hhost⟩ := readsHost_place?.hostLike hread
  obtain ⟨port, hport, hrest⟩ := exists_afterPort rest
  obtain ⟨path, hpath, hback⟩ := exists_afterPath (afterPort rest)
  have hwhole : rest = port ++ path ++ afterPath (afterPort rest) := by
    rw [List.append_assoc, ← hback, ← hrest]
  have hparts : cs = host ++ port ++ path ++ afterPath (afterPort rest) := by
    rw [List.append_assoc host port, List.append_assoc host, ← hwhole, hcs]
  refine ⟨host, port, path, _, ?_, hparts, hwhole ▸ hread, hhost, hport, hpath⟩
  -- what stands in front of the rest is as long as the text without it
  rw [← htext, hparts, List.length_append, Nat.add_sub_cancel, List.take_left]

/-- A host name, a port and a path that nothing follows are read whole. -/
theorem read?_of_parts {host port path : List Char}
    (hread : place? (host ++ port ++ path) = some (port ++ path)) (hport : IsPort port)
    (hpath : IsPath path) : read? (host ++ port ++ path) = some (host ++ port ++ path) := by
  rw [read?, findSome?_hostStarts, hread, Option.map_some, afterPath_afterPort hport hpath,
    List.length_nil, Nat.sub_zero, List.take_length]

/-- An address that is put together from its parts has no blanks. -/
theorem noBlank_of_parts {host port path : List Char} (hhost : HostLike host) (hport : IsPort port)
    (hpath : IsPath path) : ∀ c ∈ host ++ port ++ path, isBlank c = false := by
  intro c hc
  rw [List.mem_append, List.mem_append] at hc
  rcases hc with (hc | hc) | hc
  · exact hhost.noBlank c hc
  · rcases hport with rfl | ⟨digits, rfl, hdigits⟩
    · cases hc
    · rcases List.mem_cons.1 hc with rfl | hc
      · decide
      · exact isBlank_eq_false_of_isDigit (hdigits.all c hc)
  · rcases hpath with rfl | ⟨steps, rfl, hsteps⟩
    · cases hc
    · rcases List.mem_cons.1 hc with rfl | hc
      · decide
      · exact hsteps c hc

/-! ## Taking the punctuation off -/

/-- No letter and no digit is a mark that is dropped at the end of an address. -/
theorem isClosing_eq_false {c : Char} (h : isFoldedLetter c = true ∨ isDigit c = true) :
    isClosing c = false := by
  rw [Bool.eq_false_iff]
  intro hclosing
  have hnone : ∀ d ∈ ".,;:!?)\"'".toList, isFoldedLetter d = false ∧ isDigit d = false := by decide
  obtain ⟨hletter, hdigit⟩ := hnone c (List.contains_iff_mem.1 hclosing)
  simp [hletter, hdigit] at h

/-- A host name and a port end in a letter or a digit. -/
theorem exists_last {host port : List Char} (hhost : HostLike host) (hport : IsPort port) :
    ∃ front c, host ++ port = front ++ [c] ∧ isClosing c = false := by
  rcases hport with rfl | ⟨digits, rfl, hdigits⟩
  · obtain ⟨c, hc, hletter⟩ := hhost.letter
    obtain ⟨front, rfl⟩ := List.getLast?_eq_some_iff.1 hc
    exact ⟨front, c, List.append_nil _, isClosing_eq_false (.inl hletter)⟩
  · have hlast := List.dropLast_append_getLast hdigits.ne_nil
    refine ⟨host ++ ':' :: digits.dropLast, digits.getLast hdigits.ne_nil, ?_,
      isClosing_eq_false (.inr (hdigits.all _ (List.getLast_mem _)))⟩
    rw [List.append_assoc, List.cons_append, hlast]

/-- Only the steps of a path can lose characters. -/
theorem exists_dropEndWhile {host port path : List Char} (hhost : HostLike host)
    (hport : IsPort port) (hpath : IsPath path) :
    ∃ kept dropped, path = kept ++ dropped ∧ IsPath kept ∧
      dropEndWhile isClosing (host ++ port ++ path) = host ++ port ++ kept := by
  rcases hpath with rfl | ⟨steps, rfl, hsteps⟩
  · obtain ⟨front, c, hlast, hc⟩ := exists_last hhost hport
    refine ⟨[], [], rfl, .inl rfl, ?_⟩
    rw [List.append_nil, hlast, dropEndWhile_append_cons hc]
    rfl
  · have hslash : isClosing '/' = false := by decide
    obtain ⟨dropped, hdropped⟩ := List.rdropWhile_prefix isClosing steps
    change dropEndWhile isClosing steps ++ dropped = steps at hdropped
    refine ⟨'/' :: dropEndWhile isClosing steps, dropped, by rw [List.cons_append, hdropped],
      .inr ⟨_, rfl, fun c hc => hsteps c ?_⟩, dropEndWhile_append_cons hslash _ _⟩
    rw [← hdropped]
    exact List.mem_append_left _ hc

/-- What is left of a text that was read, when the punctuation behind it is taken off, stands at the
beginning, has no blanks and is read whole. -/
theorem read?_dropEndWhile {cs text : List Char} (h : read? cs = some text) :
    dropEndWhile isClosing text <+: cs ∧ (∀ c ∈ dropEndWhile isClosing text, isBlank c = false) ∧
      read? (dropEndWhile isClosing text) = some (dropEndWhile isClosing text) := by
  obtain ⟨host, port, path, back, rfl, rfl, hread, hhost, hport, hpath⟩ := exists_parts h
  obtain ⟨kept, dropped, rfl, hkept, hdrop⟩ := exists_dropEndWhile hhost hport hpath
  have hcs : host ++ port ++ (kept ++ dropped) ++ back
      = host ++ port ++ kept ++ (dropped ++ back) := by simp only [List.append_assoc]
  have hrest : port ++ (kept ++ dropped) ++ back = port ++ kept ++ (dropped ++ back) := by
    simp only [List.append_assoc]
  rw [hcs, hrest] at hread
  rw [hdrop, hcs]
  exact ⟨List.prefix_append _ _, noBlank_of_parts hhost hport hkept,
    read?_of_parts (readsHost_place?.cut hread) hport hkept⟩

end CitedReport.WebAddress
