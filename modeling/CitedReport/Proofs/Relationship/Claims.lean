import Mathlib.Logic.IsEmpty.Basic
import CitedReport.Proofs.Chars.Occurrence
import CitedReport.Proofs.Chars.Span
import CitedReport.Proofs.Relationship.Reading

/-!
# Claims and denials on the lines of a report

A line claims a relationship where one of the phrases for it stands, and denies one where a negation
comes shortly before a word of such a phrase. Where there was no engagement a report is rejected
when one of its lines has a claim and no denial (`check_noPriorEngagement_iff`).

The line is looked at as a whole, so a denial of something else on it excuses a claim that nobody
denies (`not_claim_rejected`).
-/

namespace CitedReport.Relationship

open Chars

/-! ## Where a phrase stands -/

/-- A piece of some form that begins where a word can begin. -/
structure Mention (form : List Char → Prop) (line : List Char) extends Occurrence form line where
  /-- No word goes on into it. -/
  startsWord : wordStart before.getLast? = true

/-- One of the phrases by which a report claims a relationship, in any letter case. -/
def IsClaim (text : List Char) : Prop := text.map fold ∈ claimPhrases

/-- A denied word with at most so many other words in front. -/
inductive Denied : Nat → List Char → Prop
  /-- It comes first. -/
  | word {n : Nat} {text : List Char} (h : text.map fold ∈ deniedWords) : Denied n text
  /-- It comes after another word. -/
  | later {n : Nat} {other blanks text : List Char} (hother : IsRun isWord other)
      (hblanks : IsRun isBlank blanks) (h : Denied n text) :
      Denied (n + 1) (other ++ blanks ++ text)

/-- A negation with a denied word behind it and at most two words between them. -/
def IsDenial (text : List Char) : Prop :=
  ∃ negation blanks denied, text = negation ++ blanks ++ denied ∧
    negation.map fold ∈ negations ∧ IsRun isBlank blanks ∧ Denied 2 denied

/-! ## Words and blanks -/

/-- Something is left behind blanks where blanks stand and text follows. -/
theorem afterBlanks?_append {blanks rest : List Char} (h : IsRun isBlank blanks)
    (hrest : ∀ c, rest.head? = some c → isBlank c = false) :
    afterBlanks? (blanks ++ rest) = some rest := by
  have hdrop := h.dropWhile_append hrest
  obtain ⟨c, blanks, rfl, hc⟩ := h.exists_cons
  rw [List.cons_append] at hdrop ⊢
  rw [afterBlanks?, if_pos hc, trimStart, hdrop]

/-- What is left behind blanks follows a run of them. -/
theorem exists_blanks_of_afterBlanks? {cs rest : List Char} (h : afterBlanks? cs = some rest) :
    ∃ blanks, cs = blanks ++ rest ∧ IsRun isBlank blanks := by
  cases cs with
  | nil => cases h
  | cons c cs =>
    rw [afterBlanks?] at h
    split at h
    · next hc =>
      obtain rfl := Option.some.inj h
      exact ⟨_, List.takeWhile_append_dropWhile.symm, isRun_takeWhile hc cs⟩
    · cases h

/-- One of some phrases is read where it stands and no word goes on behind it. -/
theorem any_afterPhrase?_iff {phrases : List (List Char)} {cs : List Char} :
    (phrases.any fun p => (afterPhrase? p cs).isSome) = true ↔
      ∃ text rest, cs = text ++ rest ∧ text.map fold ∈ phrases ∧ wordNext rest = false := by
  simp only [List.any_eq_true, Option.isSome_iff_exists, afterPhrase?_eq_some_iff]
  constructor
  · rintro ⟨phrase, hmem, rest, text, hcs, rfl, hnext⟩
    exact ⟨text, rest, hcs, hmem, hnext⟩
  · rintro ⟨text, rest, hcs, hmem, hnext⟩
    exact ⟨_, hmem, rest, text, hcs, rfl, hnext⟩

/-! ## Denials -/

/-- A denied word is not a blank, and neither is one in front of it. -/
theorem Denied.isBlank_head? {n : Nat} {text : List Char} (h : Denied n text) (rest : List Char) :
    ∀ c, (text ++ rest).head? = some c → isBlank c = false := by
  intro c hc
  cases h with
  | word h =>
    cases text with
    | nil => exact absurd h (by decide)
    | cons d text =>
      obtain rfl := Option.some.inj hc
      have hletters : ∀ word ∈ deniedWords, word.head?.map isBlank ≠ some true := by decide
      exact isBlank_eq_false_of_fold (by simpa using hletters _ h)
  | later hother =>
    obtain ⟨d, other, rfl, hd⟩ := hother.exists_cons
    obtain rfl := Option.some.inj hc
    rw [Bool.eq_false_iff]
    intro hblank
    rw [isWord_eq_false_of_isBlank hblank] at hd
    cases hd

/-- Behind at most so many words there is a denied one where it is found. -/
theorem exists_of_deniedWithin {n : Nat} {cs : List Char} (h : deniedWithin n cs = true) :
    ∃ text rest, cs = text ++ rest ∧ Denied n text ∧ wordNext rest = false := by
  induction n generalizing cs with
  | zero =>
    obtain ⟨text, rest, hcs, hword, hnext⟩ := any_afterPhrase?_iff.1 h
    exact ⟨text, rest, hcs, .word hword, hnext⟩
  | succ n ih =>
    unfold deniedWithin at h
    rcases Bool.or_eq_true_iff.1 h with h | h
    · obtain ⟨text, rest, hcs, hword, hnext⟩ := any_afterPhrase?_iff.1 h
      exact ⟨text, rest, hcs, .word hword, hnext⟩
    · -- one word is passed over, and the blanks behind it
      cases cs with
      | nil => cases h
      | cons c cs =>
        obtain ⟨hc, h⟩ := Bool.and_eq_true_iff.1 h
        split at h
        · next after hafter =>
          obtain ⟨blanks, hdrop, hblanks⟩ := exists_blanks_of_afterBlanks? hafter
          obtain ⟨text, rest, rfl, hdenied, hnext⟩ := ih h
          refine ⟨_, rest, ?_, .later (isRun_takeWhile hc cs) hblanks hdenied, hnext⟩
          rw [List.append_assoc, List.append_assoc, ← hdrop, List.takeWhile_append_dropWhile]
        · cases h

/-- A denied word is found behind at most so many words. -/
theorem deniedWithin_append {n : Nat} {text rest : List Char} (hdenied : Denied n text)
    (hnext : wordNext rest = false) : deniedWithin n (text ++ rest) = true := by
  induction hdenied with
  | @word n text hword =>
    have hany := any_afterPhrase?_iff.2 ⟨text, rest, rfl, hword, hnext⟩
    cases n with
    | zero => exact hany
    | succ n =>
      unfold deniedWithin
      rw [hany, Bool.true_or]
  | @later n other blanks text hother hblanks hdenied ih =>
    have hblank := afterBlanks?_append hblanks (hdenied.isBlank_head? rest)
    have hdrop : (other ++ (blanks ++ (text ++ rest))).dropWhile isWord
        = blanks ++ (text ++ rest) := by
      refine hother.dropWhile_append fun c hc => ?_
      obtain ⟨d, blanks, rfl, hd⟩ := hblanks.exists_cons
      obtain rfl := Option.some.inj hc
      exact isWord_eq_false_of_isBlank hd
    obtain ⟨c, other, rfl, hc⟩ := hother.exists_cons
    rw [List.append_assoc, List.append_assoc, List.cons_append] at *
    rw [deniedWithin, Bool.or_eq_true, hdrop, hblank]
    right
    rw [Bool.and_eq_true]
    exact ⟨hc, ih⟩

/-- A denial is found at the beginning of a text where it stands. -/
theorem beginsDenial_iff {cs : List Char} :
    beginsDenial cs = true ↔
      ∃ text rest, cs = text ++ rest ∧ IsDenial text ∧ wordNext rest = false := by
  rw [beginsDenial, List.any_eq_true]
  constructor
  · rintro ⟨negation, hmem, h⟩
    split at h
    · next after hafter =>
      obtain ⟨behind, hfolded, hblank⟩ := Option.bind_eq_some_iff.1 hafter
      obtain ⟨front, rfl, rfl⟩ := afterFolded?_eq_some_iff.1 hfolded
      obtain ⟨blanks, rfl, hblanks⟩ := exists_blanks_of_afterBlanks? hblank
      obtain ⟨denied, rest, rfl, hdenied, hnext⟩ := exists_of_deniedWithin h
      exact ⟨front ++ blanks ++ denied, rest, by simp only [List.append_assoc],
        ⟨front, blanks, denied, rfl, hmem, hblanks, hdenied⟩, hnext⟩
    · cases h
  · rintro ⟨text, rest, rfl, ⟨front, blanks, denied, rfl, hmem, hblanks, hdenied⟩, hnext⟩
    refine ⟨_, hmem, ?_⟩
    have hfolded : afterFolded? (front.map fold) (front ++ blanks ++ denied ++ rest)
        = some (blanks ++ (denied ++ rest)) :=
      afterFolded?_eq_some_iff.2 ⟨front, by simp only [List.append_assoc], rfl⟩
    have hafter := afterBlanks?_append hblanks (hdenied.isBlank_head? rest)
    rw [hfolded, Option.bind_some, hafter]
    exact deniedWithin_append hdenied hnext

/-! ## At some word of a line -/

/-- A test holds at some word of a line where it holds of what follows a place where a word can
begin. The character in front of the line is what stands before its first place. -/
theorem atSomeWord_iff {test : List Char → Bool} {last : Option Char} {cs : List Char} :
    atSomeWord test last cs = true ↔ ∃ front rest, rest ≠ [] ∧ cs = front ++ rest ∧
      wordStart (front.getLast?.or last) = true ∧ test rest = true := by
  induction cs generalizing last with
  | nil =>
    refine iff_of_false (by simp [atSomeWord]) ?_
    rintro ⟨front, rest, hne, hcs, -⟩
    exact hne (List.append_eq_nil_iff.1 hcs.symm).2
  | cons c cs ih =>
    rw [atSomeWord, Bool.or_eq_true, Bool.and_eq_true, ih]
    -- one character on, that character stands in front
    have hlast : ∀ front : List Char,
        (c :: front).getLast?.or last = front.getLast?.or (some c) := by
      intro front
      rw [List.getLast?_cons]
      cases front.getLast? <;> rfl
    constructor
    · rintro (⟨hstart, htest⟩ | ⟨front, rest, hne, rfl, hstart, htest⟩)
      · exact ⟨[], c :: cs, List.cons_ne_nil c cs, rfl, hstart, htest⟩
      · exact ⟨c :: front, rest, hne, rfl, by rwa [hlast], htest⟩
    · rintro ⟨front, rest, hne, hcs, hstart, htest⟩
      cases front with
      | nil =>
        rw [List.nil_append] at hcs
        exact .inl ⟨hstart, hcs ▸ htest⟩
      | cons d front =>
        obtain ⟨rfl, rfl⟩ := List.cons.inj hcs
        rw [hlast] at hstart
        exact .inr ⟨front, rest, hne, rfl, hstart, htest⟩

/-- What begins with a piece of some form at some word of a line mentions it. -/
theorem atSomeWord_iff_mention {form : List Char → Prop} {test : List Char → Bool}
    (htest : ∀ cs, test cs = true ↔
      ∃ text rest, cs = text ++ rest ∧ form text ∧ wordNext rest = false)
    (hform : ¬ form []) (line : List Char) :
    atSomeWord test none line = true ↔ Nonempty (Mention form line) := by
  rw [atSomeWord_iff]
  constructor
  · rintro ⟨front, rest, -, rfl, hstart, hrest⟩
    obtain ⟨text, after, rfl, hforms, hnext⟩ := (htest rest).1 hrest
    rw [Option.or_none] at hstart
    exact ⟨⟨⟨front, text, after, (List.append_assoc ..).symm, hforms, hnext⟩, hstart⟩⟩
  · rintro ⟨⟨⟨front, text, after, rfl, hforms, hnext⟩, hstart⟩⟩
    have hne : text ++ after ≠ [] := by
      refine List.append_ne_nil_of_left_ne_nil ?_ after
      rintro rfl
      exact hform hforms
    refine ⟨front, text ++ after, hne, List.append_assoc .., ?_, (htest _).2 ⟨text, after, rfl,
      hforms, hnext⟩⟩
    rwa [Option.or_none]

/-- A line claims a relationship when a claim is mentioned in it. -/
theorem claims_iff {line : List Char} : claims line = true ↔ Nonempty (Mention IsClaim line) :=
  atSomeWord_iff_mention (fun _ => any_afterPhrase?_iff) (by change [] ∉ claimPhrases; decide) line

/-- A line denies one when a denial is mentioned in it. -/
theorem denies_iff {line : List Char} : denies line = true ↔ Nonempty (Mention IsDenial line) := by
  refine atSomeWord_iff_mention (fun _ => beginsDenial_iff) ?_ line
  rintro ⟨negation, blanks, denied, htext, hmem, -⟩
  rw [(List.append_eq_nil_iff.1 (List.append_eq_nil_iff.1 htext.symm).1).1] at hmem
  exact absurd hmem (by decide)

/-! ## The check of a report -/

/-- A line is objected to when it has a claim and no denial. -/
def Objectionable (line : List Char) : Prop :=
  Nonempty (Mention IsClaim line) ∧ IsEmpty (Mention IsDenial line)

/-- Whether a line is objected to can be computed. -/
theorem objectionable_iff {line : List Char} :
    Objectionable line ↔ (claims line && !denies line) = true := by
  rw [Objectionable, Bool.and_eq_true, Bool.not_eq_true', claims_iff, ← Bool.not_eq_true,
    denies_iff, not_nonempty_iff]

/-- Where there was no engagement a report fails the check when one of its lines has a claim and no
denial, and complies when none has. -/
theorem check_noPriorEngagement_iff (report : String) :
    ((∃ line ∈ lines report.toList, Objectionable line) ↔
      ∃ v, RelationshipStatus.noPriorEngagement.check report = some v ∧ v.passes = false) ∧
    ((∀ line ∈ lines report.toList, ¬ Objectionable line) ↔
      RelationshipStatus.noPriorEngagement.check report = none) := by
  have hany : ((lines report.toList).any fun l => claims l && !denies l) = true ↔
      ∃ line ∈ lines report.toList, Objectionable line := by
    simp only [List.any_eq_true, objectionable_iff]
  rw [RelationshipStatus.check]
  by_cases h : ∃ line ∈ lines report.toList, Objectionable line
  · rw [if_pos (hany.2 h)]
    refine ⟨iff_of_true h ⟨_, rfl, rfl⟩, iff_of_false ?_ (Option.some_ne_none _)⟩
    obtain ⟨line, hmem, hline⟩ := h
    exact fun hnone => hnone line hmem hline
  · rw [if_neg fun hreport => h (hany.1 hreport)]
    refine ⟨iff_of_false h ?_, iff_of_true ?_ rfl⟩
    · rintro ⟨v, hv, -⟩
      cases hv
    · exact fun line hmem hline => h ⟨line, hmem, hline⟩

/-- A denial of something else on the line excuses a claim that it has nothing to do with. -/
theorem not_claim_rejected :
    ¬ ∀ report : String,
      (∃ line ∈ lines report.toList, ∃ claim : Mention IsClaim line,
        ∀ denial : Mention IsDenial line, ¬ denial.Overlaps claim.toOccurrence) →
      ∃ v, RelationshipStatus.noPriorEngagement.check report = some v ∧ v.passes = false := by
  intro h
  let line := "Acme is an existing client with no current disputes.".toList
  obtain ⟨claim, hclaim⟩ : ∃ claim : Mention IsClaim line,
      claim.before.length + claim.text.length = 26 :=
    ⟨{ before := "Acme is an ".toList
       text := "existing client".toList
       after := " with no current disputes.".toList
       split := by decide
       isForm := by change _ ∈ claimPhrases; decide
       endsWord := by decide
       startsWord := by decide }, by decide⟩
  -- the one denial on the line begins behind the claim
  have hfront : ∀ n ∈ List.range 26, beginsDenial (line.drop n) = false := by decide +kernel
  have hapart : ∀ denial : Mention IsDenial line, ¬ denial.Overlaps claim.toOccurrence := by
    rintro denial ⟨hlt, -⟩
    have hbegins := beginsDenial_iff.2 ⟨_, _, denial.drop_before, denial.isForm, denial.endsWord⟩
    rw [hfront _ (List.mem_range.2 (hclaim ▸ hlt))] at hbegins
    cases hbegins
  obtain ⟨v, hcheck, -⟩ := h "Acme is an existing client with no current disputes."
    ⟨line, by decide, claim, hapart⟩
  have hnone : RelationshipStatus.noPriorEngagement.check
      "Acme is an existing client with no current disputes." = none := by
    decide +kernel
  rw [hnone] at hcheck
  cases hcheck

end CitedReport.Relationship
