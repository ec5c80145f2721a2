import Mathlib.Algebra.BigOperators.Group.List.Basic
import Mathlib.Algebra.Ring.Nat
import CitedReport.Message.Basic

/-!
# Adding up usages

The tokens of completions are counted in words, which start again from zero when they are full. So
usages form a commutative monoid, whatever they count, and a sum of them does not depend on the
order of its parts. What the words of a sum show is the number of all tokens as long as words can
show it (`totals_sum`).
-/

namespace CitedReport.TokenUsage

/-- No tokens at all. -/
instance : Zero TokenUsage := ⟨{}⟩

/-- Usages are added count by count. -/
theorem add_def (u v : TokenUsage) : u + v = ⟨u.input + v.input, u.output + v.output⟩ := rfl

/-- Where nothing is used, both counts are zero. -/
theorem zero_def : (0 : TokenUsage) = ⟨0, 0⟩ := rfl

/-- Words are added in any order. -/
instance : AddCommMonoid TokenUsage where
  add_assoc u v w := by simp [add_def, UInt64.add_assoc]
  zero_add u := by simp [add_def, zero_def]
  add_zero u := by simp [add_def, zero_def]
  add_comm u v := by simp [add_def, UInt64.add_comm]
  nsmul := nsmulRec

/-- A count of a sum is what the sum of the counts leaves on division by the number of words. -/
theorem toNat_sum {count : TokenUsage → UInt64} (hzero : count 0 = 0)
    (hadd : ∀ u v, count (u + v) = count u + count v) (us : List TokenUsage) :
    (count us.sum).toNat = (us.map fun u => (count u).toNat).sum % Word.size := by
  induction us with
  | nil =>
    rw [List.sum_nil, hzero]
    rfl
  | cons u us ih =>
    calc (count (u :: us).sum).toNat
        = ((count u).toNat + (count us.sum).toNat) % Word.size := by
          rw [List.sum_cons, hadd]
          exact UInt64.toNat_add ..
      _ = ((u :: us).map fun u => (count u).toNat).sum % Word.size := by
          rw [ih, Nat.add_mod_mod, List.map_cons, List.sum_cons]

/-- The counts of a usage are the numbers of the tokens in all of these together, as long as words
can hold them. -/
structure Totals (u : TokenUsage) (us : List TokenUsage) : Prop where
  /-- The tokens sent. -/
  input : (us.map fun v => v.input.toNat).sum < Word.size →
    u.input.toNat = (us.map fun v => v.input.toNat).sum
  /-- The tokens received. -/
  output : (us.map fun v => v.output.toNat).sum < Word.size →
    u.output.toNat = (us.map fun v => v.output.toNat).sum

/-- The sum of usages totals them. -/
theorem totals_sum (us : List TokenUsage) : us.sum.Totals us where
  input h := (toNat_sum rfl (fun _ _ => rfl) us).trans (Nat.mod_eq_of_lt h)
  output h := (toNat_sum rfl (fun _ _ => rfl) us).trans (Nat.mod_eq_of_lt h)

end CitedReport.TokenUsage
