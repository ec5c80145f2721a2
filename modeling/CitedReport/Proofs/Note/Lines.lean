import CitedReport.Proofs.Chars.Search
import CitedReport.Proofs.Citation.Number
import CitedReport.Proofs.Note.Entries

/-!
# Lines of a list of sources that are read as they are written

An entry is written as its number, a full stop, its URL and what is said about it. Where the URL
begins with a letter and has no blanks, that line is read as an entry with the same number and the
same URL, whatever is said about it.
-/

namespace CitedReport.Note

open Chars Citation

/-- A URL that is read as it is written: it begins with a letter and has no blanks. -/
structure PlainUrl (url : List Char) : Prop where
  /-- It begins with a letter. -/
  letter : ∃ c rest, url = c :: rest ∧ isAsciiLetter c = true
  /-- It has no blanks. -/
  noBlank : ∀ c ∈ url, isBlank c = false

/-- Whether a URL is plain can be computed. -/
theorem plainUrl_iff {url : List Char} :
    PlainUrl url ↔ url.head?.any isAsciiLetter = true ∧ url.all (fun c => !isBlank c) = true := by
  have hblank : (∀ c ∈ url, isBlank c = false) ↔ url.all (fun c => !isBlank c) = true := by simp
  rw [← hblank]
  constructor
  · rintro ⟨⟨c, rest, rfl, hc⟩, hall⟩
    exact ⟨hc, hall⟩
  · rintro ⟨hletter, hall⟩
    cases url with
    | nil => cases hletter
    | cons c rest => exact ⟨⟨c, rest, rfl, hletter⟩, hall⟩

instance : DecidablePred PlainUrl := fun _ => decidable_of_iff _ plainUrl_iff.symm

/-- A plain URL ends in text. -/
theorem PlainUrl.endsInText {url : List Char} (h : PlainUrl url) : Chars.EndsInText url := by
  obtain ⟨c, rest, rfl, -⟩ := h.letter
  exact endsInText_of_forall (List.cons_ne_nil c rest) h.noBlank

/-- The heading of a list of sources is not in a text that has no number sign. -/
theorem heading_not_infix_of_not_mem {cs : List Char} (h : '#' ∉ cs) :
    ¬ sourcesHeading.toList <:+: cs := fun hocc => h (hocc.mem (by decide))

/-- What stands behind a URL is set off by a blank. -/
def SetOff (tail : List Char) : Prop := ∀ c, tail.head? = some c → isBlank c = true

/-- What is cut off at its end stays set off. -/
theorem SetOff.of_begins {tail tail' : List Char} (h : SetOff tail) (hpre : tail' <+: tail) :
    SetOff tail' := by
  intro c hc
  obtain ⟨rest, rfl⟩ := hpre
  cases tail' with
  | nil => simp at hc
  | cons d ds => exact h c hc

/-! ## Reading a line part by part -/

/-- The number of a line and what follows it. -/
theorem readNumber?_dot {digits : List Char} (h : IsDigits digits) (rest : List Char) :
    readNumber? (digits ++ '.' :: rest) = some (digits, rest) := by
  obtain ⟨hne, hall⟩ := h
  have hstop : ∀ c, ('.' :: rest).head? = some c → isDigit c = false := by
    intro c hc
    obtain rfl : '.' = c := by simpa using hc
    decide
  have htake := takeWhile_append_stop hall hstop
  have hdrop := dropWhile_append_stop hall hstop
  obtain ⟨d, ds, rfl⟩ := List.exists_cons_of_ne_nil hne
  have hd : isDigit d = true := hall d List.mem_cons_self
  have hblank : isBlank d = false := isBlank_eq_false_of_isDigit hd
  have hminus : d ≠ '-' := by
    rintro rfl
    exact absurd hd (by decide)
  have hstar : d ≠ '*' := by
    rintro rfl
    exact absurd hd (by decide)
  have hbracket : d ≠ '[' := by
    rintro rfl
    exact absurd hd (by decide)
  rw [List.cons_append] at htake hdrop ⊢
  have hfirst : (d :: (ds ++ '.' :: rest)).dropWhile isBlank = d :: (ds ++ '.' :: rest) := by
    rw [List.dropWhile_cons, if_neg (by simp [hblank])]
  simp [readNumber?, hfirst, hminus, hstar, hbracket, htake, hdrop]

section

variable {url tail : List Char}

/-- What a line says is its URL and what stands behind that. -/
theorem entryText_plain (h : PlainUrl url) (tail : List Char) :
    entryText (' ' :: (url ++ tail)) = url ++ trimEnd tail := by
  have hend := trimEnd_append h.endsInText tail
  obtain ⟨c, rest, rfl, hc⟩ := h.letter
  have hspace : isBlank ' ' = true := by decide
  have hblank : isBlank c = false := h.noBlank c List.mem_cons_self
  have hcolon : c ≠ ':' := by
    rintro rfl
    exact absurd hc (by decide)
  rw [List.cons_append] at hend ⊢
  simp [entryText, hspace, hblank, hcolon, hend]

/-- A plain URL is no link. -/
theorem readLink?_plain (h : PlainUrl url) (tail : List Char) :
    readLink? (url ++ tail) = none := by
  obtain ⟨c, rest, rfl, hc⟩ := h.letter
  have hbracket : c ≠ '[' := by
    rintro rfl
    exact absurd hc (by decide)
  simp [readLink?, hbracket]

/-- A plain URL ends where a blank sets off the rest. -/
theorem splitUrl_plain (h : PlainUrl url) (htail : SetOff tail) :
    splitUrl (url ++ tail) = (url, tail.drop 1) := by
  have hrun : ∀ c ∈ url, (!isBlank c) = true := by
    intro c hc
    rw [h.noBlank c hc]
    rfl
  have hstop : ∀ c, tail.head? = some c → (!isBlank c) = false := by
    intro c hc
    rw [htail c hc]
    rfl
  have htake := takeWhile_append_stop hrun hstop
  have hdrop := dropWhile_append_stop hrun hstop
  obtain ⟨c, rest, rfl, hc⟩ := h.letter
  have hangle : c ≠ '<' := by
    rintro rfl
    exact absurd hc (by decide)
  rw [List.cons_append] at htake hdrop ⊢
  simp only [splitUrl, htake, hdrop]
  split
  · next heq => exact absurd (List.cons.inj heq).1 hangle
  · rfl

/-- A line is read as its number, its URL and what is said about that. -/
theorem readSource?_plain {n : Nat} (hn : n < Word.size) (h : PlainUrl url) (htail : SetOff tail) :
    readSource? (indexText n ++ '.' :: ' ' :: (url ++ tail))
      = some ⟨n, String.ofList url, nonempty? (cleanDescription ((trimEnd tail).drop 1))⟩ := by
  have hset : SetOff (trimEnd tail) := htail.of_begins (trimEnd_begins tail)
  have htrim : trim url = url := by
    obtain ⟨c, rest, rfl, -⟩ := h.letter
    have hblank : isBlank c = false := h.noBlank c List.mem_cons_self
    rw [trim, trimStart, List.dropWhile_cons, if_neg (by simp [hblank]),
      trimEnd_eq_self h.endsInText]
  have hurl : nonempty? url = some (String.ofList url) := by
    obtain ⟨c, rest, rfl, -⟩ := h.letter
    rw [nonempty?, if_neg (List.cons_ne_nil c rest)]
  simp only [readSource?, readNumber?_dot (isDigits_indexText n), entryText_plain h,
    index?_indexText hn, readLink?_plain h, splitUrl_plain h hset, htrim, hurl, Option.bind_eq_bind,
    Option.bind_some]
  rfl

/-- A line that has lost a carriage return is read in the same way. -/
theorem readSource?_dropReturn {n : Nat} (hn : n < Word.size) (h : PlainUrl url)
    (htail : SetOff tail) :
    ∃ d, readSource? (dropReturn (indexText n ++ '.' :: ' ' :: (url ++ tail)))
      = some ⟨n, String.ofList url, d⟩ := by
  rcases dropReturn_eq_or (indexText n ++ '.' :: ' ' :: (url ++ tail)) with heq | heq
  · rw [heq]
    exact ⟨_, readSource?_plain hn h htail⟩
  · rcases List.eq_nil_or_concat' tail with rfl | ⟨tail', last, rfl⟩
    · -- the line ends with its URL, which does not end in a carriage return
      have htext : Chars.EndsInText (indexText n ++ '.' :: ' ' :: (url ++ [])) := by
        rw [List.append_nil, ← List.singleton_append, ← List.singleton_append (l := url)]
        exact ((h.endsInText.append_left _).append_left _).append_left _
      obtain ⟨front, c, hc, hblank⟩ := htext
      rw [hc] at heq
      obtain rfl : c = '\r' := by simpa using (List.append_inj' heq rfl).2
      exact absurd hblank (by decide)
    · have hline : indexText n ++ '.' :: ' ' :: (url ++ (tail' ++ [last]))
          = indexText n ++ '.' :: ' ' :: (url ++ tail') ++ [last] := by simp
      rw [hline] at heq ⊢
      rw [← (List.append_inj' heq rfl).1]
      exact ⟨_, readSource?_plain hn h (htail.of_begins (List.prefix_append tail' [last]))⟩

/-- Whatever its number, a line is read as an entry with its URL, or as none. -/
theorem url_of_readSource? {n : Nat} (h : PlainUrl url) (htail : SetOff tail) {e : NoteSource}
    (he : readSource? (dropReturn (indexText n ++ '.' :: ' ' :: (url ++ tail))) = some e) :
    e.url = String.ofList url := by
  rcases Nat.lt_or_ge n Word.size with hn | hn
  · obtain ⟨d, hd⟩ := readSource?_dropReturn hn h htail
    rw [hd] at he
    obtain rfl := Option.some.inj he
    rfl
  · -- the number is too large, so the line is not read
    obtain ⟨rest, hrest⟩ :=
      exists_dropReturn_append (show '.' ≠ '\r' by decide) (indexText n) (' ' :: (url ++ tail))
    rw [hrest] at he
    simp only [readSource?, readNumber?_dot (isDigits_indexText n), index?_indexText_of_le hn,
      Option.bind_eq_bind, Option.bind_some, Option.bind_none] at he
    cases he

end

end CitedReport.Note
