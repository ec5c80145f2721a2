import Mathlib.Data.List.DropRight
import CitedReport.Chars.Basic

/-!
# Spans of characters

A reader takes the longest run of one class and goes on behind it. Where a run is written down and
something else follows, the reader takes that run and nothing else. The classes can be decided, and
so can what they say of all characters of a text (`decidableForallMem`).
-/

namespace CitedReport.Chars

/-! ## What holds of all characters of a text -/

section

variable (p : Char → Prop) [DecidablePred p]

/-- Whether all characters of a text are of a kind is seen from these, not from all that there
are. -/
instance decidableForallMem (cs : List Char) : Decidable (∀ c ∈ cs, p c) :=
  List.decidableBAll p cs

/-- So it is with a character that may be absent. -/
instance decidableForallMem? (o : Option Char) : Decidable (∀ c ∈ o, p c) :=
  Option.decidableForallMem o

end

/-! ## Runs -/

variable {α : Type}

/-- A run that something else follows is what is taken. -/
theorem takeWhile_append_stop {p : α → Bool} {run rest : List α} (hrun : ∀ c ∈ run, p c = true)
    (hrest : ∀ c, rest.head? = some c → p c = false) : (run ++ rest).takeWhile p = run := by
  rw [List.takeWhile_append_of_pos hrun]
  cases rest with
  | nil => simp
  | cons c cs => simp [hrest c rfl]

/-- A run that something else follows is what is dropped. -/
theorem dropWhile_append_stop {p : α → Bool} {run rest : List α} (hrun : ∀ c ∈ run, p c = true)
    (hrest : ∀ c, rest.head? = some c → p c = false) : (run ++ rest).dropWhile p = rest := by
  rw [List.dropWhile_append_of_pos hrun]
  cases rest with
  | nil => simp
  | cons c cs => simp [hrest c rfl]

/-- A run in front of a text comes before the first character of another class. -/
theorem prefix_of_append_eq {p : α → Bool} {run more front back : List α} {c : α}
    (hall : ∀ d ∈ run, p d = true) (hc : p c = false) (h : run ++ more = front ++ c :: back) :
    run <+: front := by
  rcases List.append_eq_append_iff.1 h with ⟨xs, hfront, -⟩ | ⟨xs, hrun, hxs⟩
  · exact ⟨xs, hfront.symm⟩
  · cases xs with
    | nil => exact ⟨[], by rw [hrun, List.append_nil, List.append_nil]⟩
    | cons d xs =>
      -- otherwise the character is one of the run
      obtain ⟨rfl, -⟩ := List.cons.inj hxs
      rw [hall c (by simp [hrun])] at hc
      cases hc

/-- A run of characters of one class. -/
structure IsRun (p : α → Bool) (run : List α) : Prop where
  /-- There is at least one. -/
  ne_nil : run ≠ []
  /-- All are of the class. -/
  all : ∀ c ∈ run, p c = true

namespace IsRun

variable {p : α → Bool} {run : List α}

/-- A run has a first character, and it is of the kind. -/
theorem exists_cons (h : IsRun p run) : ∃ c rest, run = c :: rest ∧ p c = true := by
  obtain ⟨c, rest, rfl⟩ := List.exists_cons_of_ne_nil h.ne_nil
  exact ⟨c, rest, rfl, h.all c List.mem_cons_self⟩

/-- A run is taken off whole where something else follows it. -/
theorem dropWhile_append (h : IsRun p run) {rest : List α}
    (hrest : ∀ c, rest.head? = some c → p c = false) : (run ++ rest).dropWhile p = rest :=
  dropWhile_append_stop h.all hrest

end IsRun

/-- A text that begins with a character of a class begins with a run of it. -/
theorem isRun_takeWhile {p : α → Bool} {c : α} (hc : p c = true) (cs : List α) :
    IsRun p ((c :: cs).takeWhile p) where
  ne_nil := by
    rw [List.takeWhile_cons, if_pos hc]
    exact List.cons_ne_nil _ _
  all := fun _ => List.mem_takeWhile_imp

end CitedReport.Chars
