import Mathlib.Data.List.Forall2
import CitedReport.Brief
import CitedReport.Proofs.Dialogue.Held

/-!
# How a brief is compiled

A brief is compiled in episodes: the writer is asked for a text, with what was wrong with the last
one, and a text is judged. `Compiled` is the work on a brief as a relation between its episodes and
what comes of them; every way of holding the dialogue is an instance of it (`compiled_of_held`).

Only the writer can make this fail: the outcome is an error just when one of the times it was asked
came to an error, and then it is that error (`Compiled.settled`), whatever the reviewer does.
-/

namespace CitedReport.Brief

open Dialogue

/-- Something that happens while a brief is compiled. -/
inductive Episode where
  /-- The writer is asked, with what was wrong with the last text, if there is one. -/
  | asked (feedback : Option String) (result : Except ModelError String)
  /-- A text is judged. -/
  | judged (text : String) (verdict : Verdict)

section

variable (s : ModelSettings) (a : Assignment)

/-- These exchanges make the episode. -/
inductive Episode.Takes : Episode → List Exchange → Prop where
  /-- The writer is asked. -/
  | asked {feedback : Option String} {result : Except ModelError String} {t : List Exchange}
    (h : Held (s.completeText Prompt.briefSystem
      (Prompt.brief a.query a.subject a.today feedback)) t result) :
    Takes (.asked feedback result) t
  /-- The reviewer judges. -/
  | judged {text : String} {verdict : Verdict} {t : List Exchange}
    (h : Held (Review.evaluateBrief s a.query a.subject text) t verdict) :
    Takes (.judged text verdict) t

/-- These exchanges make the episodes, one after the other. -/
def Course (es : List Episode) (t : List Exchange) : Prop :=
  ∃ parts, List.Forall₂ (Episode.Takes s a) es parts ∧ t = parts.flatten

end

/-- The loop of review and revision: with so many revisions left and so many made, from a text,
through the episodes, to what comes of it. -/
inductive Revised : Nat → Nat → String → List Episode → StageOutcome CompiledBrief → Prop where
  /-- The text is accepted. -/
  | accepted {left count : Nat} {text : String} {v : Verdict} (hv : v.passes = true) :
    Revised left count text [.judged text v] (.proceed ⟨text, count, false⟩)
  /-- The text is rejected and no revision is left. -/
  | exceeded {count : Nat} {text : String} {v : Verdict} (hv : v.passes = false) :
    Revised 0 count text [.judged text v] (.proceed ⟨text, count, true⟩)
  /-- The text is rejected and cannot be revised. -/
  | stuck {left count : Nat} {text : String} {v : Verdict} {e : ModelError}
    (hv : v.passes = false) :
    Revised (left + 1) count text [.judged text v, .asked v.revisionPrompt (.error e)]
      (.fatal (.briefCompilation e))
  /-- The text is rejected and another one takes its place. -/
  | again {left count : Nat} {text answer : String} {v : Verdict} {es : List Episode}
    {outcome : StageOutcome CompiledBrief} (hv : v.passes = false)
    (h : Revised left (count + 1) (Text.trim answer) es outcome) :
    Revised (left + 1) count text (.judged text v :: .asked v.revisionPrompt (.ok answer) :: es)
      outcome

/-- The work on a brief, with so many revisions if it is validated, through the episodes, to what
comes of it. -/
inductive Compiled : Option Nat → List Episode → StageOutcome CompiledBrief → Prop where
  /-- There is no text. -/
  | failed {bound : Option Nat} (e : ModelError) :
    Compiled bound [.asked none (.error e)] (.fatal (.briefCompilation e))
  /-- The text is not validated. -/
  | unreviewed (answer : String) :
    Compiled none [.asked none (.ok answer)] (.proceed ⟨Text.trim answer, 0, false⟩)
  /-- The text goes through the loop. -/
  | reviewed {bound : Nat} {answer : String} {es : List Episode}
    {outcome : StageOutcome CompiledBrief} (h : Revised bound 0 (Text.trim answer) es outcome) :
    Compiled (some bound) (.asked none (.ok answer) :: es) outcome

variable {s : ModelSettings} {a : Assignment}

/-! ## Every dialogue is such a course -/

/-- Nothing happens in no exchanges. -/
theorem Course.nil : Course s a [] [] := ⟨[], .nil, rfl⟩

/-- An episode comes before those of a course. -/
theorem Course.cons {e : Episode} {es : List Episode} {t ts : List Exchange}
    (h : e.Takes s a t) (hs : Course s a es ts) : Course s a (e :: es) (t ++ ts) := by
  obtain ⟨parts, hparts, rfl⟩ := hs
  exact ⟨t :: parts, .cons h hparts, List.flatten_cons.symm⟩

/-- What the writer answers is trimmed, and an error of the model is one of the brief. -/
theorem exists_asked_of_held_write {feedback : Option String} {t : List Exchange}
    {r : Except ResearchError String} (h : Held (write s a feedback) t r) :
    ∃ result, (Episode.asked feedback result).Takes s a t ∧
      r = (result.map Text.trim).mapError .briefCompilation := by
  unfold write at h
  obtain ⟨t₁, t₂, result, rfl, hasked, h⟩ := held_bind_iff.1 h
  refine ⟨result, ?_, ?_⟩
  · cases result with
    | ok text =>
      obtain ⟨rfl, -⟩ := held_pure_iff.1 h
      rw [List.append_nil]
      exact .asked hasked
    | error e =>
      obtain ⟨rfl, -⟩ := held_pure_iff.1 h
      rw [List.append_nil]
      exact .asked hasked
  · cases result with
    | ok text => exact (held_pure_iff.1 h).2
    | error e => exact (held_pure_iff.1 h).2

/-- The loop, however it is held, goes through some episodes of its relation. -/
theorem revised_of_held {left count : Nat} {text : String} {t : List Exchange}
    {outcome : StageOutcome CompiledBrief} (h : Held (revise s a left count text) t outcome) :
    ∃ es, Course s a es t ∧ Revised left count text es outcome := by
  -- the induction is on the revisions that are left, as the loop is
  induction left generalizing count text t with
  | zero =>
    rw [revise, held_bind_iff] at h
    obtain ⟨t₁, t₂, v, rfl, hjudged, h⟩ := h
    split at h
    · next hv =>
      obtain ⟨rfl, rfl⟩ := held_pure_iff.1 h
      exact ⟨_, .cons (.judged hjudged) .nil, .accepted hv⟩
    · next hv =>
      obtain ⟨rfl, rfl⟩ := held_pure_iff.1 h
      exact ⟨_, .cons (.judged hjudged) .nil, .exceeded (by simpa using hv)⟩
  | succ left ih =>
    rw [revise, held_bind_iff] at h
    obtain ⟨t₁, t₂, v, rfl, hjudged, h⟩ := h
    split at h
    · next hv =>
      obtain ⟨rfl, rfl⟩ := held_pure_iff.1 h
      exact ⟨_, .cons (.judged hjudged) .nil, .accepted hv⟩
    · next hv =>
      have hv : v.passes = false := by simpa using hv
      simp only [held_bind_iff] at h
      obtain ⟨t₃, t₄, r, rfl, hwrite, h⟩ := h
      obtain ⟨result, hasked, rfl⟩ := exists_asked_of_held_write hwrite
      cases result with
      | error e =>
        obtain ⟨rfl, rfl⟩ := held_pure_iff.1 h
        exact ⟨_, .cons (.judged hjudged) (.cons hasked .nil), .stuck hv⟩
      | ok answer =>
        obtain ⟨es, hcourse, hrevised⟩ := ih h
        exact ⟨_, .cons (.judged hjudged) (.cons hasked hcourse), .again hv hrevised⟩

/-- So does all the work on a brief. -/
theorem compiled_of_held {maxRevisions : Option Nat} {t : List Exchange}
    {outcome : StageOutcome CompiledBrief} (h : Held (compile s a maxRevisions) t outcome) :
    ∃ es, Course s a es t ∧ Compiled maxRevisions es outcome := by
  unfold compile at h
  obtain ⟨t₁, t₂, r, rfl, hwrite, h⟩ := held_bind_iff.1 h
  obtain ⟨result, hasked, rfl⟩ := exists_asked_of_held_write hwrite
  cases result with
  | error e =>
    obtain ⟨rfl, rfl⟩ := held_pure_iff.1 h
    exact ⟨_, .cons hasked .nil, .failed e⟩
  | ok answer =>
    cases maxRevisions with
    | none =>
      obtain ⟨rfl, rfl⟩ := held_pure_iff.1 h
      exact ⟨_, .cons hasked .nil, .unreviewed answer⟩
    | some bound =>
      obtain ⟨es, hcourse, hrevised⟩ := revised_of_held h
      exact ⟨_, .cons hasked hcourse, .reviewed hrevised⟩

/-! ## What ends the work -/

/-- The loop ends with an error of the writer or with a brief. -/
theorem Revised.settled {left count : Nat} {text : String} {es : List Episode}
    {outcome : StageOutcome CompiledBrief} (h : Revised left count text es outcome) :
    (∃ feedback e, .asked feedback (.error e) ∈ es ∧ outcome = .fatal (.briefCompilation e)) ∨
      (∀ feedback e, .asked feedback (.error e) ∉ es) ∧ ∃ brief, outcome = .proceed brief := by
  induction h with
  | accepted _ => exact .inr ⟨by simp, _, rfl⟩
  | exceeded _ => exact .inr ⟨by simp, _, rfl⟩
  | @stuck left count text v e _ => exact .inl ⟨v.revisionPrompt, e, by simp, rfl⟩
  | again _ _ ih =>
    rcases ih with ⟨feedback, e, he, houtcome⟩ | ⟨hnone, hbrief⟩
    · exact .inl ⟨feedback, e, by simp [he], houtcome⟩
    · exact .inr ⟨by simpa using hnone, hbrief⟩

/-- So does all the work. -/
theorem Compiled.settled {maxRevisions : Option Nat} {es : List Episode}
    {outcome : StageOutcome CompiledBrief} (h : Compiled maxRevisions es outcome) :
    (∃ feedback e, .asked feedback (.error e) ∈ es ∧ outcome = .fatal (.briefCompilation e)) ∨
      (∀ feedback e, .asked feedback (.error e) ∉ es) ∧ ∃ brief, outcome = .proceed brief := by
  cases h with
  | failed e => exact .inl ⟨none, e, by simp, rfl⟩
  | unreviewed answer => exact .inr ⟨by simp, _, rfl⟩
  | reviewed h =>
    rcases h.settled with ⟨feedback, e, he, houtcome⟩ | ⟨hnone, hbrief⟩
    · exact .inl ⟨feedback, e, by simp [he], houtcome⟩
    · exact .inr ⟨by simpa using hnone, hbrief⟩

/-! ## The brief that comes of it -/

/-- What holds of every loop that comes to a brief is proved by its ways to come to one: in those
the writer does not fail. -/
@[elab_as_elim]
theorem Revised.brief_induction
    {motive : ∀ left count text es brief, Revised left count text es (.proceed brief) → Prop}
    (accepted : ∀ {left count : Nat} {text : String} {v : Verdict} (hv : v.passes = true),
      motive left count text [.judged text v] ⟨text, count, false⟩ (.accepted hv))
    (exceeded : ∀ {count : Nat} {text : String} {v : Verdict} (hv : v.passes = false),
      motive 0 count text [.judged text v] ⟨text, count, true⟩ (.exceeded hv))
    (again : ∀ {left count : Nat} {text answer : String} {v : Verdict} {es : List Episode}
      {brief : CompiledBrief} (hv : v.passes = false)
      (h : Revised left (count + 1) (Text.trim answer) es (.proceed brief)),
      motive left (count + 1) (Text.trim answer) es brief h →
      motive (left + 1) count text
        (.judged text v :: .asked v.revisionPrompt (.ok answer) :: es) brief (.again hv h))
    {left count : Nat} {text : String} {es : List Episode} {brief : CompiledBrief}
    (h : Revised left count text es (.proceed brief)) : motive left count text es brief h := by
  -- the outcome is an index of the relation, so it must be a variable in the induction
  suffices hall : ∀ {outcome : StageOutcome CompiledBrief}
      (h : Revised left count text es outcome) (hbrief : outcome = .proceed brief),
      motive left count text es brief (hbrief ▸ h) from hall h rfl
  clear h
  intro outcome h hbrief
  induction h with
  | accepted hv =>
    obtain rfl := StageOutcome.proceed.inj hbrief
    exact accepted hv
  | exceeded hv =>
    obtain rfl := StageOutcome.proceed.inj hbrief
    exact exceeded hv
  | stuck _ => cases hbrief
  | again hv _ ih =>
    subst hbrief
    exact again hv _ (ih rfl)

/-- A brief from the loop was judged last, and says how often it was sent back and whether it was
still rejected in the end. -/
theorem Revised.concluded {left count : Nat} {text : String} {es : List Episode}
    {brief : CompiledBrief} (h : Revised left count text es (.proceed brief)) :
    brief.revisionCount ≤ count + left ∧
      ∃ before v, es = before ++ [.judged brief.text v] ∧
        brief.maxRevisionsExceeded = !v.passes := by
  induction h using Revised.brief_induction with
  | @accepted left count text v hv =>
    exact ⟨Nat.le_add_right count left, [], v, rfl, by rw [hv]; rfl⟩
  | @exceeded count text v hv => exact ⟨Nat.le_refl count, [], v, rfl, by rw [hv]; rfl⟩
  | @again left count text answer v es brief _ _ ih =>
    obtain ⟨hcount, before, last, rfl, hexceeded⟩ := ih
    exact ⟨by omega, .judged text v :: .asked v.revisionPrompt (.ok answer) :: before, last, rfl,
      hexceeded⟩

/-- What a brief says of the work on it. -/
structure Concluded (maxRevisions : Option Nat) (es : List Episode) (brief : CompiledBrief) :
    Prop where
  /-- It is sent back no more often than allowed, and never without validation. -/
  count_le : brief.revisionCount ≤ maxRevisions.getD 0
  /-- It says whether it was validated and rejected when it was last judged. -/
  exceeded_iff : brief.maxRevisionsExceeded = true ↔ maxRevisions.isSome = true ∧
    ∃ v, es.getLast? = some (.judged brief.text v) ∧ v.passes = false

/-- A brief that was compiled says of itself what happened. -/
theorem Compiled.concluded {maxRevisions : Option Nat} {es : List Episode} {brief : CompiledBrief}
    (h : Compiled maxRevisions es (.proceed brief)) : Concluded maxRevisions es brief := by
  cases h with
  | unreviewed answer => exact ⟨Nat.le_refl 0, by simp⟩
  | @reviewed bound answer es _ hrevised =>
    obtain ⟨hcount, before, v, rfl, hexceeded⟩ := hrevised.concluded
    rw [Nat.zero_add] at hcount
    have hlast : (.asked none (.ok answer) :: (before ++ [.judged brief.text v])).getLast?
        = some (.judged brief.text v) := by
      rw [← List.cons_append, List.getLast?_concat]
    refine ⟨hcount, ?_⟩
    rw [hexceeded, hlast, Bool.not_eq_true']
    constructor
    · exact fun hv => ⟨rfl, v, rfl, hv⟩
    · rintro ⟨-, v', hsame, hv⟩
      obtain ⟨-, rfl⟩ := Episode.judged.inj (Option.some.inj hsame)
      exact hv

end CitedReport.Brief
