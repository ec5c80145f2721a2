import CitedReport.Proofs.Chars.Classes
import CitedReport.Chars.Basic

/-!
# Phrases in any letter case

A phrase is read in any letter case by folding the characters of the text. It ends at the first
character that does not fold to one of its own, such as a blank or a digit: those have no case.
-/

namespace CitedReport.Chars

/-! ## Characters without case -/

/-- Digits have no case. -/
theorem fold_of_isDigit {c : Char} (h : isDigit c = true) : fold c = c := by
  -- two characters beyond the capitals fold to others: the long s and the sign for kelvin
  have hlong : c.toNat ≠ 0x17F := by
    intro hc
    rw [isDigit, hc, if_neg (by decide)] at h
    exact absurd h (by decide)
  have hkelvin : c.toNat ≠ 0x212A := by
    intro hc
    rw [isDigit, hc, if_neg (by decide)] at h
    exact absurd h (by decide)
  have hcapital : ¬ (0x41 ≤ c.toNat ∧ c.toNat ≤ 0x5A) := by
    intro hc
    rw [isDigit, if_pos (by omega)] at h
    simp only [isAsciiDigit, Bool.and_eq_true, decide_eq_true_eq] at h
    omega
  simp [fold, asciiLower, hlong, hkelvin, hcapital]

/-- Blanks have no case. -/
theorem fold_of_isBlank {c : Char} (h : isBlank c = true) : fold c = c := by
  have hcodes := toNat_mem_blankCodes h
  simp only [blankCodes, List.mem_cons, List.not_mem_nil, or_false] at hcodes
  have hlong : c.toNat ≠ 0x17F := by omega
  have hkelvin : c.toNat ≠ 0x212A := by omega
  have hcapital : ¬ (0x41 ≤ c.toNat ∧ c.toNat ≤ 0x5A) := by omega
  simp [fold, asciiLower, hlong, hkelvin, hcapital]

/-- What folds to a letter is no blank. -/
theorem isBlank_eq_false_of_fold {c : Char} (h : isBlank (fold c) = false) : isBlank c = false := by
  rw [Bool.eq_false_iff]
  intro hblank
  rw [fold_of_isBlank hblank, hblank] at h
  cases h

/-! ## Reading a phrase -/

/-- A text begins with a phrase when its first characters fold to it. -/
theorem afterFolded?_eq_some_iff {phrase cs rest : List Char} :
    afterFolded? phrase cs = some rest ↔ ∃ front, cs = front ++ rest ∧ front.map fold = phrase := by
  induction phrase generalizing cs with
  | nil => simp [afterFolded?, eq_comm]
  | cons p ps ih =>
    cases cs with
    | nil => simp [afterFolded?]
    | cons c cs =>
      rw [afterFolded?]
      split
      · next hp =>
        -- the first characters agree: the rest of the phrase is read behind them
        rw [ih]
        constructor
        · rintro ⟨front, rfl, rfl⟩
          exact ⟨c :: front, rfl, by rw [List.map_cons, hp]⟩
        · rintro ⟨front, hfront, hmap⟩
          cases front with
          | nil => simp at hmap
          | cons d front =>
            obtain ⟨rfl, rfl⟩ : c = d ∧ cs = front ++ rest := by simpa using hfront
            exact ⟨front, rfl, (List.cons.inj hmap).2⟩
      · next hp =>
        refine iff_of_false (by simp) ?_
        rintro ⟨front, hfront, hmap⟩
        cases front with
        | nil => simp at hmap
        | cons d front =>
          obtain ⟨rfl, -⟩ : c = d ∧ cs = front ++ rest := by simpa using hfront
          exact hp (List.cons.inj hmap).1.symm

/-- A phrase does not reach over a character that does not fold to one of its own. -/
theorem afterFolded?_append_cons {phrase : List Char} {c : Char} (hc : fold c ∉ phrase)
    (cs rest : List Char) :
    afterFolded? phrase (cs ++ c :: rest) = (afterFolded? phrase cs).map (· ++ c :: rest) := by
  induction cs generalizing phrase with
  | nil =>
    cases phrase with
    | nil => rfl
    | cons p ps =>
      have hp : p ≠ fold c := fun h => hc (h ▸ List.mem_cons_self)
      simp [afterFolded?, hp]
  | cons d ds ih =>
    cases phrase with
    | nil => rfl
    | cons p ps =>
      rw [List.cons_append, afterFolded?, afterFolded?]
      split
      · exact ih fun hmem => hc (List.mem_cons_of_mem p hmem)
      · rfl

end CitedReport.Chars
