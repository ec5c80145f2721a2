import CitedReport.Proofs.Citation.Marker

/-!
# Numbers and their digits

The digits that are written for a number are read as that number again, as long as it fits a word.
-/

namespace CitedReport.Citation

/-- Decimal digits are ASCII digits. -/
theorem isAsciiDigit_of_mem_indexText {n : Nat} {c : Char} (h : c ∈ indexText n) :
    Chars.isAsciiDigit c = true := by
  have hdigit : c.isDigit = true := Nat.isDigit_of_mem_toDigits (by omega) (by omega) h
  simp only [Char.isDigit, Bool.and_eq_true, decide_eq_true_eq] at hdigit
  have hlow : 48 ≤ c.toNat := hdigit.1
  have hhigh : c.toNat ≤ 57 := hdigit.2
  simp only [Chars.isAsciiDigit, Bool.and_eq_true, decide_eq_true_eq]
  omega

/-- No other character is written for a number. -/
theorem not_mem_indexText {c : Char} (hc : Chars.isAsciiDigit c = false) (n : Nat) :
    c ∉ indexText n := by
  intro hmem
  rw [isAsciiDigit_of_mem_indexText hmem] at hc
  cases hc

/-- A number is written with at least one digit. -/
theorem indexText_ne_nil (n : Nat) : indexText n ≠ [] := Nat.toDigits_ne_nil

/-- The digits of a number are digits. -/
theorem isDigits_indexText (n : Nat) : IsDigits (indexText n) :=
  ⟨indexText_ne_nil n, fun _ h => Chars.isDigit_of_isAsciiDigit (isAsciiDigit_of_mem_indexText h)⟩

/-- The digits of a number have its value. -/
theorem valueOf_indexText (n : Nat) : Word.valueOf (indexText n) = n := by
  have hfold : ∀ (cs : List Char) (k : Nat),
      cs.foldl (fun n c => n * 10 + (c.toNat - 48)) k = Nat.ofDigitChars 10 cs k := by
    intro cs
    induction cs with
    | nil =>
      intro k
      rw [List.foldl_nil, Nat.ofDigitChars_nil]
    | cons c cs ih =>
      intro k
      rw [List.foldl_cons, ih, Nat.ofDigitChars_cons, Nat.mul_comm]
      rfl
  rw [Word.valueOf, hfold, indexText, Nat.ofDigitChars_ten_toDigits]

/-- A number that fits is read from its digits. -/
theorem index?_indexText {n : Nat} (h : n < Word.size) : index? (indexText n) = some n := by
  have hall : (indexText n).all Chars.isAsciiDigit = true :=
    List.all_eq_true.2 fun _ => isAsciiDigit_of_mem_indexText
  have hdigits : Word.areDigits (indexText n) = true := by
    simp [Word.areDigits, indexText_ne_nil, hall]
  rw [index?, Word.ofDigits?, valueOf_indexText, if_pos ⟨hdigits, h⟩]

/-- A number that does not fit is not read. -/
theorem index?_indexText_of_le {n : Nat} (h : Word.size ≤ n) : index? (indexText n) = none := by
  rw [index?, Word.ofDigits?, valueOf_indexText, if_neg fun hfits => Nat.not_lt.2 h hfits.2]

/-- The digits of a number are read as no other number. -/
theorem eq_of_index?_indexText {n k : Nat} (h : index? (indexText n) = some k) : k = n := by
  by_cases hn : n < Word.size
  · rw [index?_indexText hn] at h
    exact (Option.some.inj h).symm
  · rw [index?_indexText_of_le (Nat.le_of_not_lt hn)] at h
    cases h

end CitedReport.Citation
