import CitedReport.Chars.Basic
import Mathlib.Data.List.Basic

/-!
# Lower case

An ASCII text is put in lower case letter by letter. Beyond ASCII no letter has an ASCII letter for
its lower case, except for the sign for kelvin, whose lower case is `k`. So a word whose lower case
is a word of ASCII letters without a `k` is that word in one case or another
(`asciiLowerAll_eq_of_lowerAll_eq`).
-/

namespace CitedReport.Chars

/-! ## ASCII texts -/

/-- In front of any text an ASCII text is put in lower case letter by letter. -/
theorem lowerAfter_append {cs : List Char} (h : ∀ c ∈ cs, c.toNat < 128) (before rest : List Char) :
    lowerAfter before (cs ++ rest) = asciiLowerAll cs ++ lowerAfter (cs.reverse ++ before) rest := by
  induction cs generalizing before with
  | nil => rfl
  | cons c cs ih =>
    have hc : c.toNat < 128 := h c List.mem_cons_self
    have hsigma : (c.toNat == 0x3A3) = false := by
      rw [beq_eq_false_iff_ne]
      omega
    rw [List.cons_append, lowerAfter, hsigma, lower, if_pos hc,
      ih fun d hd => h d (List.mem_cons_of_mem c hd)]
    simp [asciiLowerAll]

/-- An ASCII text in front is put into lower case by itself, and is looked back at from behind. -/
theorem lowerAll_append {cs : List Char} (h : ∀ c ∈ cs, c.toNat < 128) (rest : List Char) :
    lowerAll (cs ++ rest) = asciiLowerAll cs ++ lowerAfter cs.reverse rest := by
  rw [lowerAll, lowerAfter_append h, List.append_nil]

/-- On ASCII texts the two ways to put a text into lower case agree. -/
theorem lowerAll_of_ascii {cs : List Char} (h : ∀ c ∈ cs, c.toNat < 128) :
    lowerAll cs = asciiLowerAll cs := by
  have happend := lowerAll_append h []
  rwa [List.append_nil, lowerAfter, List.append_nil] at happend

/-- What is an ASCII character in lower case has been one before. -/
theorem toNat_lt_of_asciiLower {c : Char} (h : (asciiLower c).toNat < 128) : c.toNat < 128 := by
  unfold asciiLower at h
  split at h
  · next hcapital =>
    simp only [Bool.and_eq_true, decide_eq_true_eq] at hcapital
    omega
  · exact h

/-- So a word in another case is an ASCII word if that one is. -/
theorem toNat_lt_of_asciiLowerAll_eq {word name : List Char} (h : asciiLowerAll word = name)
    (hname : ∀ d ∈ name, d.toNat < 128) : ∀ c ∈ word, c.toNat < 128 := by
  intro c hc
  exact toNat_lt_of_asciiLower (hname _ (h ▸ List.mem_map_of_mem hc))

/-! ## Other letters -/

/-- A character of a lower case that comes from beyond ASCII: it is not an ASCII character itself, or
it is a `k`. -/
def Foreign (c : Char) : Prop := 128 ≤ c.toNat ∨ c = 'k'

instance : DecidablePred Foreign := fun _ => inferInstanceAs (Decidable (_ ∨ _))

/-- The letters of a run are moved to characters beyond ASCII, except for the sign for kelvin. -/
def RunLeavesAscii (r : Nat × Nat × Nat × Int) : Prop :=
  (r.1 = 0x212A ∧ r.2.1 = 0x212A ∧ r.2.2.2 = -8383) ∨
    (128 ≤ (r.1 : Int) + r.2.2.2 ∧ (r.2.1 : Int) + r.2.2.2 < 0xD800) ∨
    (0xE000 ≤ (r.1 : Int) + r.2.2.2 ∧ (r.2.1 : Int) + r.2.2.2 < 0x110000)

instance (r : Nat × Nat × Nat × Int) : Decidable (RunLeavesAscii r) :=
  inferInstanceAs (Decidable (_ ∨ _ ∨ _))

/-- All runs of the table are of one of the three kinds. -/
theorem runLeavesAscii_of_mem : ∀ r ∈ Tables.lowerRuns, RunLeavesAscii r := by decide +kernel

/-- A valid code point beyond ASCII is that of a character beyond ASCII. -/
theorem foreign_ofNat {n : Nat} (hn : 128 ≤ n) (hvalid : n.isValidChar) :
    Foreign (Char.ofNat n) := by
  rw [Char.ofNat, dif_pos hvalid]
  exact .inl hn

/-- The image of a letter in a run comes from beyond ASCII. -/
theorem foreign_of_runImage? {n : Nat} {d : Char} (h : runImage? Tables.lowerRuns n = some d) :
    Foreign d := by
  obtain ⟨r, hr, rfl⟩ := Option.map_eq_some_iff.1 h
  have hmem := List.mem_of_find?_eq_some hr
  have hrange := List.find?_some hr
  simp only [Bool.and_eq_true, decide_eq_true_eq] at hrange
  obtain ⟨⟨hfirst, hlast⟩, -⟩ := hrange
  rcases runLeavesAscii_of_mem r hmem with ⟨hr₁, hr₂, hr₃⟩ | h | h
  · have hn : ((n : Int) + r.2.2.2).toNat = 107 := by omega
    rw [hn]
    exact .inr rfl
  · exact foreign_ofNat (by omega) (.inl (by omega))
  · exact foreign_ofNat (by omega) (.inr ⟨by omega, by omega⟩)

/-- The lower case of a character beyond ASCII shows where it comes from. -/
theorem exists_foreign_of_lower {c : Char} (h : 128 ≤ c.toNat) : ∃ d ∈ lower c, Foreign d := by
  unfold lower
  rw [if_neg (by omega)]
  split
  · exact ⟨Char.ofNat 0x307, by simp, .inl (by decide)⟩
  · refine ⟨_, List.mem_singleton_self _, ?_⟩
    cases himage : runImage? Tables.lowerRuns c.toNat with
    | none => exact .inl h
    | some d => exact foreign_of_runImage? himage

/-- A text is an ASCII text if nothing in its lower case comes from beyond. -/
theorem ascii_of_lowerAfter {cs : List Char} (before : List Char)
    (h : ∀ d ∈ lowerAfter before cs, ¬ Foreign d) : ∀ c ∈ cs, c.toNat < 128 := by
  induction cs generalizing before with
  | nil => simp
  | cons c cs ih =>
    rw [lowerAfter] at h
    intro c' hc'
    rcases List.mem_cons.1 hc' with rfl | hc'
    · by_contra hlarge
      have hfirst : ∃ d ∈ (if c'.toNat == 0x3A3 then
          [if casedNext before && !casedNext cs then Char.ofNat 0x3C2 else Char.ofNat 0x3C3]
          else lower c'), Foreign d := by
        split
        · refine ⟨_, List.mem_singleton_self _, .inl ?_⟩
          split
          · decide
          · decide
        · exact exists_foreign_of_lower (by omega)
      obtain ⟨d, hd, hforeign⟩ := hfirst
      exact h d (List.mem_append_left _ hd) hforeign
    · exact ih (c :: before) (fun d hd => h d (List.mem_append_right _ hd)) c' hc'

/-- A word whose lower case has nothing from beyond ASCII is that word in another case. -/
theorem asciiLowerAll_eq_of_lowerAll_eq {word name : List Char} (h : lowerAll word = name)
    (hname : ∀ d ∈ name, ¬ Foreign d) : asciiLowerAll word = name := by
  rw [← h, lowerAll] at hname
  rw [← h, lowerAll_of_ascii (ascii_of_lowerAfter [] hname)]

end CitedReport.Chars
