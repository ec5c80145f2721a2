import Mathlib.Data.List.Chain
import CitedReport.Proofs.Brief.Validation
import CitedReport.Proofs.Completion.Asks
import CitedReport.Proofs.Plan.Lossless
import CitedReport.Proofs.Verdict.Extraction

/-!
# The revisions of a brief

The episodes of the work on a validated brief follow each other by two rules (`Follows`): what the
writer has written is judged, and what the reviewer rejects is written again with what the reviewer
has said of it. So nobody but a reviewer who answers, and whose answer can be read as a rejection,
has a brief written again. The brief in the end is the last one that was written, and it says how
many times it was sent back and whether it was still rejected then (`Accounted`).

`validated_compile` puts this together for any services: the work comes to an end, and only the
writer can make it fail.
-/

namespace CitedReport.Brief

open Dialogue

/-- Whether the writer is asked. -/
def Episode.isAsked : Episode → Bool
  | .asked _ _ => true
  | .judged _ _ => false

/-- Whether a text is judged. -/
def Episode.isJudged : Episode → Bool
  | .asked _ _ => false
  | .judged _ _ => true

/-- The text that is written, if there is one. -/
def Episode.text? : Episode → Option String
  | .asked _ (.ok answer) => some (Text.trim answer)
  | _ => none

/-- The texts that are written, in order. -/
def texts (es : List Episode) : List String := es.filterMap Episode.text?

/-! ## The episodes of the loop -/

/-- How one episode leads to the next. -/
inductive Next : Episode → Episode → Prop where
  /-- The text that is written is judged. -/
  | judged {feedback : Option String} {answer : String} {v : Verdict} :
    Next (.asked feedback (.ok answer)) (.judged (Text.trim answer) v)
  /-- A text that is rejected is written again. -/
  | revised {text : String} {v : Verdict} {result : Except ModelError String}
    (hv : v.passes = false) : Next (.judged text v) (.asked v.revisionPrompt result)

section

variable {left count : Nat} {text : String} {es : List Episode}
  {outcome : StageOutcome CompiledBrief}

/-- The loop begins with a judgement of the text it begins with. -/
theorem Revised.head?_eq (h : Revised left count text es outcome) :
    ∃ v, es.head? = some (.judged text v) := by
  cases h with
  | accepted _ => exact ⟨_, rfl⟩
  | exceeded _ => exact ⟨_, rfl⟩
  | stuck _ => exact ⟨_, rfl⟩
  | again _ _ => exact ⟨_, rfl⟩

/-- In the loop each episode leads to the next. -/
theorem Revised.isChain (h : Revised left count text es outcome) : es.IsChain Next := by
  induction h with
  | accepted _ => exact .singleton _
  | exceeded _ => exact .singleton _
  | stuck hv => exact .cons_cons (.revised hv) (.singleton _)
  | @again left count text answer v es outcome hv h ih =>
    obtain ⟨v', hhead⟩ := h.head?_eq
    refine .cons_cons (.revised hv) (List.isChain_cons.2 ⟨fun e he => ?_, ih⟩)
    obtain rfl := Option.some.inj (hhead.symm.trans he)
    exact .judged

variable {brief : CompiledBrief}

/-- Each text of the loop is judged once, and each but the first is a revision. -/
theorem Revised.counts (h : Revised left count text es (.proceed brief)) :
    count + es.countP Episode.isAsked = brief.revisionCount ∧
      es.countP Episode.isJudged = es.countP Episode.isAsked + 1 := by
  induction h using Revised.brief_induction with
  | accepted _ => exact ⟨rfl, rfl⟩
  | exceeded _ => exact ⟨rfl, rfl⟩
  | @again left count text answer v es brief _ _ ih =>
    obtain ⟨hcount, hjudged⟩ := ih
    have hasked : (.judged text v :: .asked v.revisionPrompt (.ok answer) :: es).countP
        Episode.isAsked = es.countP Episode.isAsked + 1 := by
      rw [List.countP_cons_of_neg Bool.false_ne_true, List.countP_cons_of_pos rfl]
    have hjudged' : (.judged text v :: .asked v.revisionPrompt (.ok answer) :: es).countP
        Episode.isJudged = es.countP Episode.isJudged + 1 := by
      rw [List.countP_cons_of_pos rfl, List.countP_cons_of_neg Bool.false_ne_true]
    rw [hasked, hjudged']
    omega

/-- The brief is the last text of the loop. -/
theorem Revised.getLast?_texts (h : Revised left count text es (.proceed brief)) :
    (text :: texts es).getLast? = some brief.text := by
  induction h using Revised.brief_induction with
  | accepted _ => rfl
  | exceeded _ => rfl
  | again _ _ ih => exact ih

/-- A brief that is still rejected has been revised as often as allowed. -/
theorem Revised.exhausted (h : Revised left count text es (.proceed brief))
    (hexceeded : brief.maxRevisionsExceeded = true) : brief.revisionCount = count + left := by
  induction h using Revised.brief_induction with
  | accepted _ => cases hexceeded
  | exceeded _ => rfl
  | again _ _ ih =>
    have hcount := ih hexceeded
    omega

end

/-! ## What a brief says of the work on it -/

/-- What a validated brief says of itself is what happened in these episodes. -/
structure Accounted (bound : Nat) (es : List Episode) (brief : CompiledBrief) : Prop where
  /-- It is the last text that was written. -/
  getLast?_texts : (texts es).getLast? = some brief.text
  /-- It says something, and neither begins nor ends in blanks. -/
  clean : brief.text ≠ "" ∧ Text.trim brief.text = brief.text
  /-- The writer was asked once and then once for each revision. -/
  asked_eq : es.countP Episode.isAsked = brief.revisionCount + 1
  /-- As many texts were judged. -/
  judged_eq : es.countP Episode.isJudged = brief.revisionCount + 1
  /-- There were not more revisions than allowed. -/
  count_le : brief.revisionCount ≤ bound
  /-- It says whether this very text was rejected in the end. -/
  exceeded_iff : brief.maxRevisionsExceeded = true ↔
    ∃ v, es.getLast? = some (.judged brief.text v) ∧ v.passes = false
  /-- If it was, no revision was left. -/
  exhausted : brief.maxRevisionsExceeded = true → brief.revisionCount = bound

variable {s : ModelSettings} {a : Assignment}

/-- The episodes of a course, each with its exchanges. -/
theorem Course.exists_log {es : List Episode} {t : List Exchange} (h : Course s a es t) :
    ∃ log : List (Episode × List Exchange), log.map Prod.fst = es ∧ t = log.flatMap Prod.snd ∧
      ∀ x ∈ log, x.1.Takes s a x.2 := by
  obtain ⟨parts, hparts, rfl⟩ := h
  have hlength := hparts.length_eq
  refine ⟨es.zip parts, List.map_fst_zip (Nat.le_of_eq hlength), ?_, fun x hx => ?_⟩
  · rw [List.flatMap_def, List.map_snd_zip (Nat.le_of_eq hlength.symm)]
  · exact List.forall₂_zip hparts hx

/-- Each episode of a course takes some exchanges. -/
theorem Course.takes_of_mem {es : List Episode} {t : List Exchange} {e : Episode}
    (h : Course s a es t) (he : e ∈ es) : ∃ t', e.Takes s a t' := by
  obtain ⟨log, rfl, -, htakes⟩ := h.exists_log
  obtain ⟨x, hx, rfl⟩ := List.mem_map.1 he
  exact ⟨x.2, htakes x hx⟩

/-- What is written is not empty, and it is trimmed. -/
theorem clean_of_takes {feedback : Option String} {answer : String} {t : List Exchange}
    (h : (Episode.asked feedback (.ok answer)).Takes s a t) :
    Text.trim answer ≠ "" ∧ Text.trim (Text.trim answer) = Text.trim answer := by
  cases h with
  | asked hheld => exact Plan.clean_trim (not_isBlank_of_held_completeText hheld)

/-- Only a reviewer who answers, and whose answer is read as a rejection, rejects a text. -/
theorem exists_answer_of_rejected {text : String} {v : Verdict} {t : List Exchange}
    (h : (Episode.judged text v).Takes s a t) (hv : v.passes = false) :
    ∃ answer prompt, Held (s.completeText Prompt.evaluatorSystem
        (Prompt.briefEvaluation a.query a.subject text)) t (.ok answer) ∧
      Verdict.parse? answer = some (.fail prompt) ∧ v = .fail prompt ∧
      Text.isBlank prompt = false := by
  cases h with
  | judged hheld =>
    rw [Review.evaluateBrief, Review.evaluate, held_bind_iff] at hheld
    obtain ⟨t₁, t₂, result, rfl, hasked, hverdict⟩ := hheld
    cases result with
    | error e =>
      -- a reviewer who cannot be asked rejects nothing
      obtain ⟨-, rfl⟩ := held_pure_iff.1 hverdict
      cases hv
    | ok answer =>
      obtain ⟨rfl, rfl⟩ := held_pure_iff.1 hverdict
      rw [List.append_nil]
      cases hread : Verdict.parse? answer with
      | none =>
        -- an answer that is not read rejects nothing
        rw [hread] at hv
        cases hv
      | some v =>
        rw [hread, Option.getD_some] at hv
        rcases Verdict.settled_of_parse? hread with rfl | ⟨prompt, rfl, hprompt⟩
        · cases hv
        · exact ⟨answer, prompt, hasked, hread, rfl, hprompt⟩

/-- The brief that comes out of the work accounts for it. -/
theorem accounted_of_compiled {bound : Nat} {es : List Episode} {t : List Exchange}
    {brief : CompiledBrief} (hcourse : Course s a es t)
    (h : Compiled (some bound) es (.proceed brief)) : Accounted bound es brief := by
  have hconcluded := h.concluded
  cases h with
  | @reviewed _ answer es _ hrevised =>
    have hlast : (texts (.asked none (.ok answer) :: es)).getLast? = some brief.text :=
      hrevised.getLast?_texts
    obtain ⟨hasked, hjudged⟩ := hrevised.counts
    have hclean : brief.text ≠ "" ∧ Text.trim brief.text = brief.text := by
      obtain ⟨e, he, htext⟩ := List.mem_filterMap.1 (List.mem_of_getLast? hlast)
      obtain ⟨t', htakes⟩ := hcourse.takes_of_mem he
      unfold Episode.text? at htext
      split at htext
      · rw [← Option.some.inj htext]
        exact clean_of_takes htakes
      · cases htext
    refine ⟨hlast, hclean, ?_, ?_, hconcluded.count_le, ?_, fun hexceeded => ?_⟩
    · rw [List.countP_cons_of_pos rfl]
      omega
    · rw [List.countP_cons_of_neg Bool.false_ne_true]
      omega
    · rw [hconcluded.exceeded_iff]
      exact and_iff_right rfl
    · rw [hrevised.exhausted hexceeded, Nat.zero_add]

/-! ## The work as a whole -/

variable (s a) in
/-- How an episode with its exchanges leads to the next: a text that was written is judged, and one
that the reviewer rejects in an answer that can be read is written again, with what the reviewer
says. -/
inductive Follows : Episode × List Exchange → Episode × List Exchange → Prop where
  /-- The text that is written is judged. -/
  | judged {feedback : Option String} {answer : String} {v : Verdict} {t t' : List Exchange} :
    Follows (.asked feedback (.ok answer), t) (.judged (Text.trim answer) v, t')
  /-- A text that is rejected is written again. -/
  | revised {text answer prompt : String} {result : Except ModelError String}
    {t t' : List Exchange}
    (hanswer : Held (s.completeText Prompt.evaluatorSystem
      (Prompt.briefEvaluation a.query a.subject text)) t (.ok answer))
    (hread : Verdict.parse? answer = some (.fail prompt)) (hprompt : Text.isBlank prompt = false) :
    Follows (.judged text (.fail prompt), t) (.asked (some prompt) result, t')

/-- What the episodes of a course follow each other by. -/
theorem isChain_follows {log : List (Episode × List Exchange)}
    (htakes : ∀ x ∈ log, x.1.Takes s a x.2) (h : (log.map Prod.fst).IsChain Next) :
    log.IsChain (Follows s a) := by
  refine List.IsChain.imp_of_mem_imp ?_ ((List.isChain_map Prod.fst).1 h)
  rintro ⟨e, t⟩ ⟨e', t'⟩ hmem - hnext
  cases hnext with
  | judged => exact .judged
  | revised hv =>
    obtain ⟨answer, prompt, hanswer, hread, rfl, hprompt⟩ :=
      exists_answer_of_rejected (htakes _ hmem) hv
    exact .revised hanswer hread hprompt

/-- In the work on a brief each episode leads to the next. -/
theorem Compiled.isChain {maxRevisions : Option Nat} {es : List Episode}
    {outcome : StageOutcome CompiledBrief} (h : Compiled maxRevisions es outcome) :
    es.IsChain Next := by
  cases h with
  | failed e => exact .singleton _
  | unreviewed answer => exact .singleton _
  | reviewed h =>
    obtain ⟨v, hhead⟩ := h.head?_eq
    refine List.isChain_cons.2 ⟨fun e he => ?_, h.isChain⟩
    obtain rfl := Option.some.inj (hhead.symm.trans he)
    exact .judged

/-- It begins with a first text. -/
theorem Compiled.head?_eq {maxRevisions : Option Nat} {es : List Episode}
    {outcome : StageOutcome CompiledBrief} (h : Compiled maxRevisions es outcome) :
    ∃ result, es.head? = some (.asked none result) := by
  cases h with
  | failed e => exact ⟨_, rfl⟩
  | unreviewed answer => exact ⟨_, rfl⟩
  | reviewed _ => exact ⟨_, rfl⟩

variable (s a) in
/-- The work on a validated brief, with so many revisions allowed, from its episodes to what comes
of it. -/
structure Validated (bound : Nat) (log : List (Episode × List Exchange))
    (outcome : StageOutcome CompiledBrief) : Prop where
  /-- First the writer is asked for a text. -/
  begins : ∃ result, (log.map Prod.fst).head? = some (.asked none result)
  /-- Each episode leads to the next. -/
  follows : log.IsChain (Follows s a)
  /-- Nothing but an error of the writer ends a run. -/
  fatal_iff : (∃ e, outcome = .fatal e) ↔
    ∃ feedback e, .asked feedback (.error e) ∈ log.map Prod.fst
  /-- Without one there is a brief that accounts for the work. -/
  accounted : (∀ feedback e, .asked feedback (.error e) ∉ log.map Prod.fst) →
    ∃ brief, outcome = .proceed brief ∧ Accounted bound (log.map Prod.fst) brief

/-- Whatever the services answer, the work on a validated brief comes to an end: to a failure just
when the writer fails, and otherwise to the last brief that was written, after no more revisions
than allowed, each of them with what a reviewer has said of the text before. -/
theorem validated_compile {σ : Type} (services : Services σ) (state : σ) (s : ModelSettings)
    (a : Assignment) (bound : Nat) :
    let work := compile s a (some bound)
    ∃ log : List (Episode × List Exchange),
      work.transcript services state = log.flatMap Prod.snd ∧
      (∀ x ∈ log, x.1.Takes s a x.2) ∧ Validated s a bound log (work.run services state).1 := by
  intro work
  obtain ⟨es, hcourse, hcompiled⟩ := compiled_of_held (held_run services work state)
  obtain ⟨log, rfl, htranscript, htakes⟩ := hcourse.exists_log
  refine ⟨log, htranscript, htakes, hcompiled.head?_eq,
    isChain_follows htakes hcompiled.isChain, ?_, fun hnone => ?_⟩
  · rcases hcompiled.settled with ⟨feedback, e, he, houtcome⟩ | ⟨hnone, brief, houtcome⟩
    · exact ⟨fun _ => ⟨feedback, e, he⟩, fun _ => ⟨_, houtcome⟩⟩
    · constructor
      · rintro ⟨e, hfatal⟩
        rw [houtcome] at hfatal
        cases hfatal
      · rintro ⟨feedback, e, he⟩
        exact absurd he (hnone feedback e)
  · rcases hcompiled.settled with ⟨feedback, e, he, -⟩ | ⟨-, brief, houtcome⟩
    · exact absurd he (hnone feedback e)
    · rw [houtcome] at hcompiled
      exact ⟨brief, houtcome, accounted_of_compiled hcourse hcompiled⟩

end CitedReport.Brief
