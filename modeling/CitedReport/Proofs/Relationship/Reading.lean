import CitedReport.Relationship
import CitedReport.Proofs.Chars.Fold
import CitedReport.Proofs.Chars.Trim

/-!
# Reading a status

A status is read wherever its mark, some blanks and the words of a kind stand one after the other
(`readStatus?_eq_some_iff`). The words of the kinds begin with different letters, so what is read at
a place is one status of one kind.
-/

namespace CitedReport.Relationship

open Chars

/-- The text tells of a kind of status: the mark, blanks, which may be line ends, and the words of
the kind, in any letter case. -/
def Tells (k : StatusKind) (text : List Char) : Prop :=
  ∃ mark blanks words, text = mark ++ blanks ++ words ∧ mark.map fold = statusMark ∧
    (∀ c ∈ blanks, isBlank c = true) ∧ words.map fold = k.words

/-! ## The parts of a status -/

/-- The words of a kind begin with a letter. -/
theorem exists_cons_of_words {k : StatusKind} {words : List Char} (h : words.map fold = k.words) :
    ∃ c rest, words = c :: rest ∧ k.words.head? = some (fold c) ∧ isBlank c = false := by
  cases words with
  | nil => cases k <;> cases h
  | cons c rest =>
    have hhead : k.words.head? = some (fold c) := by rw [← h]; rfl
    have hblank : ∀ d, k.words.head? = some d → isBlank d = false := by
      intro d hd
      cases k <;> obtain rfl := Option.some.inj hd <;> decide
    exact ⟨c, rest, rfl, hhead, isBlank_eq_false_of_fold (hblank _ hhead)⟩

namespace Tells

variable {k : StatusKind} {text : List Char}

/-- A status begins with the first letter of its mark. -/
theorem exists_cons (h : Tells k text) : ∃ c rest, text = c :: rest ∧ fold c = 'r' := by
  obtain ⟨mark, blanks, words, rfl, hmark, -, -⟩ := h
  cases mark with
  | nil => cases hmark
  | cons c mark => exact ⟨c, mark ++ blanks ++ words, rfl, (List.cons.inj hmark).1⟩

/-- A text that tells of a status begins with its mark. -/
theorem startsInText (h : Tells k text) : StartsInText text := by
  obtain ⟨c, rest, htext, hc⟩ := h.exists_cons
  exact ⟨c, rest, htext, isBlank_eq_false_of_fold (by rw [hc]; decide)⟩

/-- It ends with the last letter of its words. -/
theorem endsInText (h : Tells k text) : EndsInText text := by
  obtain ⟨mark, blanks, words, rfl, -, -, hwords⟩ := h
  have hlast : k.words.getLast? = some 't' := by cases k <;> decide
  rw [← hwords, List.getLast?_map, Option.map_eq_some_iff] at hlast
  obtain ⟨c, hc, hfold⟩ := hlast
  obtain ⟨front, rfl⟩ := List.getLast?_eq_some_iff.1 hc
  exact ⟨mark ++ blanks ++ front, c, by simp, isBlank_eq_false_of_fold (by rw [hfold]; decide)⟩

end Tells

/-! ## What is read -/

/-- A phrase is read where it stands and no word goes on behind it. -/
theorem afterPhrase?_eq_some_iff {phrase cs rest : List Char} :
    afterPhrase? phrase cs = some rest ↔
      ∃ text, cs = text ++ rest ∧ text.map fold = phrase ∧ wordNext rest = false := by
  simp only [afterPhrase?, Option.bind_eq_some_iff, afterFolded?_eq_some_iff]
  constructor
  · rintro ⟨rest', ⟨text, hcs, htext⟩, hnext⟩
    split at hnext
    · cases hnext
    · next hword =>
      obtain rfl := Option.some.inj hnext
      exact ⟨text, hcs, htext, by simpa using hword⟩
  · rintro ⟨text, hcs, htext, hnext⟩
    exact ⟨rest, ⟨text, hcs, htext⟩, if_neg (by simp [hnext])⟩

/-- A kind is read where its words are, since no other kind begins with the same letter. -/
theorem readKind?_eq_some_iff {cs rest : List Char} {k : StatusKind} :
    readKind? cs = some (k, rest) ↔
      ∃ words, cs = words ++ rest ∧ words.map fold = k.words ∧ wordNext rest = false := by
  constructor
  · intro h
    obtain ⟨k', -, hk'⟩ := List.exists_of_findSome?_eq_some h
    obtain ⟨rest', hread, heq⟩ := Option.map_eq_some_iff.1 hk'
    obtain ⟨rfl, rfl⟩ := Prod.mk.inj heq
    exact afterPhrase?_eq_some_iff.1 hread
  · intro h
    have hread := afterPhrase?_eq_some_iff.2 h
    obtain ⟨words, rfl, hwords, -⟩ := h
    obtain ⟨c, back, rfl, hc, -⟩ := exists_cons_of_words hwords
    -- another kind that is tried first begins with another letter
    have hother : ∀ k' : StatusKind, k' ≠ k →
        afterPhrase? k'.words (c :: back ++ rest) = none := by
      intro k' hne
      have hhead : k'.words.head? ≠ some (fold c) := by
        rw [← hc]
        revert hne
        cases k' <;> cases k <;> decide
      obtain ⟨p, ps, hp⟩ := List.exists_cons_of_ne_nil (l := k'.words) (by cases k' <;> decide)
      rw [hp] at hhead ⊢
      rw [afterPhrase?, List.cons_append, afterFolded?, if_neg fun heq => hhead (by rw [heq]; rfl)]
      rfl
    rw [readKind?, StatusKind.all]
    cases k with
    | existing => simp only [List.findSome?_cons, hread, Option.map_some]
    | past =>
      simp only [List.findSome?_cons, hother .existing (by decide), hread, Option.map_some,
        Option.map_none]
    | absent =>
      simp only [List.findSome?_cons, hother .existing (by decide), hother .past (by decide), hread,
        Option.map_some, Option.map_none]

/-- A status is read where it stands. -/
theorem readStatus?_eq_some_iff {cs rest : List Char} {k : StatusKind} :
    readStatus? cs = some (k, rest) ↔
      ∃ text, cs = text ++ rest ∧ Tells k text ∧ wordNext rest = false := by
  simp only [readStatus?, Option.bind_eq_some_iff, afterFolded?_eq_some_iff, readKind?_eq_some_iff]
  constructor
  · rintro ⟨after, ⟨mark, rfl, hmark⟩, words, hafter, hwords, hnext⟩
    refine ⟨mark ++ after.takeWhile isBlank ++ words, ?_,
      ⟨mark, _, words, rfl, hmark, fun c => List.mem_takeWhile_imp, hwords⟩, hnext⟩
    rw [List.append_assoc, List.append_assoc, ← hafter, trimStart,
      List.takeWhile_append_dropWhile]
  · rintro ⟨text, rfl, ⟨mark, blanks, words, rfl, hmark, hblanks, hwords⟩, hnext⟩
    refine ⟨blanks ++ words ++ rest, ⟨mark, by simp, hmark⟩, words, ?_, hwords, hnext⟩
    -- the words begin with text, so just the blanks in front are dropped
    obtain ⟨c, back, rfl, -, hstop⟩ := exists_cons_of_words hwords
    rw [trimStart, List.append_assoc]
    exact dropWhile_append_stop hblanks fun d hd => by
      obtain rfl := Option.some.inj hd
      exact hstop

end CitedReport.Relationship
