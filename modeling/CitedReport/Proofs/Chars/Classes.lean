import Mathlib.Data.List.Basic
import CitedReport.Chars.Classes

/-!
# Blanks, digits and brackets are different characters

The readers of citations and of source lists go from blanks to digits to brackets and back. What
keeps them from running into each other is that no character is in two of these classes.
-/

namespace CitedReport.Chars

/-- The code points of the blanks. -/
def blankCodes : List Nat :=
  [0x20, 0x9, 0xA, 0xB, 0xC, 0xD, 0x85, 0xA0, 0x1680, 0x2000, 0x2001, 0x2002, 0x2003, 0x2004,
   0x2005, 0x2006, 0x2007, 0x2008, 0x2009, 0x200A, 0x2028, 0x2029, 0x202F, 0x205F, 0x3000]

/-- A blank has one of the code points of the blanks. -/
theorem toNat_mem_blankCodes {c : Char} (h : isBlank c = true) : c.toNat ∈ blankCodes := by
  simp only [isBlank, Bool.or_eq_true, Bool.and_eq_true, beq_iff_eq, decide_eq_true_eq] at h
  simp only [blankCodes, List.mem_cons, List.not_mem_nil, or_false]
  omega

/-- No blank is a digit. -/
theorem isDigit_eq_false_of_isBlank {c : Char} (h : isBlank c = true) : isDigit c = false := by
  have hcodes : ∀ n ∈ blankCodes, (if n < 128 then (0x30 ≤ n && n ≤ 0x39 : Bool)
      else inRanges Tables.decimalDigits n) = false := by
    decide +kernel
  exact hcodes _ (toNat_mem_blankCodes h)

/-- No digit is a blank. -/
theorem isBlank_eq_false_of_isDigit {c : Char} (h : isDigit c = true) : isBlank c = false := by
  cases hb : isBlank c with
  | false => rfl
  | true =>
    rw [isDigit_eq_false_of_isBlank hb] at h
    contradiction

/-- No blank can stand inside a word. -/
theorem isWord_eq_false_of_isBlank {c : Char} (h : isBlank c = true) : isWord c = false := by
  have hcodes : ∀ n ∈ blankCodes, isWord (Char.ofNat n) = false := by decide +kernel
  have := hcodes _ (toNat_mem_blankCodes h)
  rwa [Char.ofNat_toNat] at this

/-- The digits `0` to `9` are digits. -/
theorem isDigit_of_isAsciiDigit {c : Char} (h : isAsciiDigit c = true) : isDigit c = true := by
  have h' := h
  simp only [isAsciiDigit, Bool.and_eq_true, decide_eq_true_eq] at h'
  rw [isDigit, if_pos (by omega), h]

end CitedReport.Chars
