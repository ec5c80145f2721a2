import CitedReport.Synthesis.Basic
import CitedReport.Proofs.Dialogue.Held
import CitedReport.Proofs.Synthesis.Sections

/-!
# The review of a report

The work on a report is a series of episodes: the writer is asked for a draft, a draft is judged,
the observer is told of a revision. `Course` reads the exchanges with the outside as such a series,
and `Revised` is the loop of review and revision as a relation between what it starts from, the
episodes and the report: after a draft that is rejected comes the news of a revision, and then an
attempt at it with just what the reviewer asked for. Every dialogue of the loop is an instance of
the relation (`revised_of_held`), and so is the work as a whole of `Synthesized`
(`exists_synthesized_of_held`). What is to be known about the loop is shown by induction on the
relation, once for each way to go on, and `report_synthesize` says what follows for the report.
-/

namespace CitedReport.Synthesis

open Dialogue

/-- Something that happens while a report is written. -/
inductive Episode where
  /-- The writer is asked for a draft: for a first one, or for a revision of a draft with what is
  wrong with it. -/
  | attempt (revision : Option (String × String)) (result : Except ResearchError String)
  /-- A draft is judged. -/
  | judged (draft : String) (verdict : Verdict)
  /-- The observer is told of a revision. -/
  | announced (number : Nat) (feedback : String)

/-- Whether the writer is asked. -/
def Episode.isAttempt : Episode → Bool
  | .attempt _ _ => true
  | _ => false

/-- The draft that is written, if there is one. -/
def Episode.draft? : Episode → Option String
  | .attempt _ (.ok draft) => some draft
  | _ => none

/-- How often the writer is asked. -/
def attempts (es : List Episode) : Nat := es.countP Episode.isAttempt

/-- The drafts that are written, in order. -/
def drafts (es : List Episode) : List String := es.filterMap Episode.draft?

/-- What is asked of the writer after a verdict: what the reviewer says, or the general request. -/
def feedback (v : Verdict) : String := v.revisionPrompt.getD genericFeedback

section

variable (s : ModelSettings) (a : Assignment) (c : ResearchContext) (status : RelationshipStatus)
variable (maxRevisions : Nat)

/-- These exchanges make the episode. -/
inductive Episode.Takes : Episode → List Exchange → Prop where
  /-- The writer is asked. -/
  | attempt {revision : Option (String × String)} {result : Except ResearchError String}
    {t : List Exchange} (h : Held (write s a c status revision) t result) :
    Takes (.attempt revision result) t
  /-- The gate judges. -/
  | judged {draft : String} {verdict : Verdict} {t : List Exchange}
    (h : Held (Review.evaluateReport s a.brief draft status) t verdict) :
    Takes (.judged draft verdict) t
  /-- The observer is told. -/
  | announced {number : Nat} {feedback : String} :
    Takes (.announced number feedback) [⟨.report (.revision number maxRevisions feedback), ()⟩]

/-- These exchanges make the episodes, one after the other. -/
inductive Course : List Episode → List Exchange → Prop where
  /-- Nothing happens. -/
  | nil : Course [] []
  /-- An episode and what follows it. -/
  | cons {e : Episode} {es : List Episode} {t ts : List Exchange}
    (h : e.Takes s a c status maxRevisions t) (hs : Course es ts) : Course (e :: es) (t ++ ts)

/-- The loop of review and revision: with so many revisions left and so many made, from a draft,
through the episodes, to the report. -/
inductive Revised : Nat → Nat → String → List Episode → Report → Prop where
  /-- The draft is accepted. -/
  | accepted {left count : Nat} {draft : String} {v : Verdict} (hv : v.passes = true) :
    Revised left count draft [.judged draft v] (finish c draft .accepted count false)
  /-- The draft is rejected and no revision is left. -/
  | exceeded {count : Nat} {draft : String} {v : Verdict} (hv : v.passes = false) :
    Revised 0 count draft [.judged draft v] (finish c draft .exhausted count true)
  /-- The draft is rejected and cannot be revised as the reviewer asks. -/
  | stuck {left count : Nat} {draft : String} {v : Verdict} {e : ResearchError}
    (hv : v.passes = false) :
    Revised (left + 1) count draft
      [.judged draft v, .announced (count + 1) (feedback v),
        .attempt (some (draft, feedback v)) (.error e)]
      (finish c draft .exhausted (count + 1) false)
  /-- The draft is rejected and another one, as the reviewer asks for it, takes its place. -/
  | again {left count : Nat} {draft draft' : String} {v : Verdict} {es : List Episode} {r : Report}
    (hv : v.passes = false) (h : Revised left (count + 1) draft' es r) :
    Revised (left + 1) count draft
      (.judged draft v :: .announced (count + 1) (feedback v) ::
        .attempt (some (draft, feedback v)) (.ok draft') :: es) r

/-- The work on a report from its beginning, through the episodes, to the report. -/
inductive Synthesized : List Episode → Report → Prop where
  /-- There is no first draft, and the report is the fallback. -/
  | fallback (e : ResearchError) :
    Synthesized [.attempt none (.error e)] (finish c (fallbackReport c e) .exhausted 0 false)
  /-- There is one, and it goes through the loop with all revisions left. -/
  | revised {draft : String} {es : List Episode} {r : Report}
    (h : Revised c maxRevisions 0 draft es r) :
    Synthesized (.attempt none (.ok draft) :: es) r

end

variable {s : ModelSettings} {a : Assignment} {c : ResearchContext} {status : RelationshipStatus}
variable {maxRevisions : Nat}

/-! ## Writing and judging -/

/-- A draft comes with the generated section of sources at its end. -/
theorem endsWith_of_held_write {revision : Option (String × String)} {t : List Exchange}
    {draft : String} (h : Held (write s a c status revision) t (.ok draft)) :
    EndsWith (closing c) draft := by
  unfold write at h
  obtain ⟨t₁, t₂, result, -, -, h⟩ := held_bind_iff.1 h
  cases result with
  | error e => simp [held_pure_iff] at h
  | ok text =>
    obtain ⟨-, hdraft⟩ := held_pure_iff.1 h
    rw [Except.ok.inj hdraft]
    exact endsWith_replaceSources text c

/-- The relationship rule never accepts a report by itself. -/
theorem passes_of_check {report : String} {v : Verdict} (h : status.check report = some v) :
    v.passes = false := by
  unfold RelationshipStatus.check at h
  split at h
  · split at h
    · simp at h
    · obtain rfl := Option.some.inj h
      rfl
  · split at h
    · obtain rfl := Option.some.inj h
      rfl
    · simp at h
  · simp at h

/-- What passes the gate keeps the relationship rule. -/
theorem check_eq_none_of_passes {draft : String} {v : Verdict} {t : List Exchange}
    (h : Held (Review.evaluateReport s a.brief draft status) t v) (hv : v.passes = true) :
    status.check draft = none := by
  unfold Review.evaluateReport at h
  split at h
  · next verdict hcheck =>
    obtain ⟨-, rfl⟩ := held_pure_iff.1 h
    rw [passes_of_check hcheck] at hv
    exact absurd hv (by decide)
  · next hcheck => exact hcheck

/-! ## The course of the work -/

/-- Each episode of a course takes its exchanges. -/
theorem Course.takes_of_mem {es : List Episode} {t : List Exchange} {e : Episode}
    (h : Course s a c status maxRevisions es t) (he : e ∈ es) :
    ∃ t', e.Takes s a c status maxRevisions t' := by
  induction h with
  | nil => simp at he
  | cons h _ ih =>
    rcases List.mem_cons.1 he with rfl | he
    · exact ⟨_, h⟩
    · exact ih he

/-- A draft that passes in a course keeps the relationship rule. -/
theorem Course.check_eq_none {es : List Episode} {t : List Exchange} {draft : String} {v : Verdict}
    (h : Course s a c status maxRevisions es t) (he : .judged draft v ∈ es)
    (hv : v.passes = true) : status.check draft = none := by
  obtain ⟨t', ht'⟩ := h.takes_of_mem he
  cases ht' with
  | judged hjudged => exact check_eq_none_of_passes hjudged hv

/-- All drafts of a course come with the generated section at their end. -/
theorem Course.endsWith {es : List Episode} {t : List Exchange} {draft : String}
    (h : Course s a c status maxRevisions es t) (hd : draft ∈ drafts es) :
    EndsWith (closing c) draft := by
  obtain ⟨e, he, hdraft⟩ := List.mem_filterMap.1 hd
  obtain ⟨t', ht'⟩ := h.takes_of_mem he
  cases ht' with
  | attempt hwrite =>
    unfold Episode.draft? at hdraft
    split at hdraft
    · next heq =>
      obtain ⟨-, rfl⟩ := Episode.attempt.inj heq
      obtain rfl := Option.some.inj hdraft
      exact endsWith_of_held_write hwrite
    · simp at hdraft
  | judged _ => simp [Episode.draft?] at hdraft
  | announced => simp [Episode.draft?] at hdraft

/-- The loop, however it is held, goes through some episodes of its relation. -/
theorem revised_of_held {left count : Nat} {draft : String} {t : List Exchange} {r : Report}
    (h : Held (revise s a c status maxRevisions left count draft) t r) :
    ∃ es, Course s a c status maxRevisions es t ∧ Revised c left count draft es r := by
  -- the induction is on the revisions that are left, as the loop is
  induction left generalizing count draft t with
  | zero =>
    rw [revise, held_bind_iff] at h
    obtain ⟨t₁, t₂, v, rfl, hjudged, h⟩ := h
    split at h
    · next hv =>
      obtain ⟨rfl, rfl⟩ := held_pure_iff.1 h
      exact ⟨_, .cons (.judged hjudged) .nil, .accepted hv⟩
    · next hv =>
      obtain ⟨rfl, rfl⟩ := held_pure_iff.1 h
      exact ⟨_, .cons (.judged hjudged) .nil, .exceeded (by simpa using hv)⟩
  | succ left ih =>
    rw [revise, held_bind_iff] at h
    obtain ⟨t₁, t₂, v, rfl, hjudged, h⟩ := h
    split at h
    · next hv =>
      obtain ⟨rfl, rfl⟩ := held_pure_iff.1 h
      exact ⟨_, .cons (.judged hjudged) .nil, .accepted hv⟩
    · next hv =>
      have hv : v.passes = false := by simpa using hv
      simp only [held_bind_iff] at h
      obtain ⟨t₃, t₄, _, rfl, hreport, t₅, t₆, result, rfl, hwrite, h⟩ := h
      obtain rfl := held_ask_done_iff.1 hreport
      cases result with
      | error e =>
        obtain ⟨rfl, rfl⟩ := held_pure_iff.1 h
        exact ⟨_, .cons (.judged hjudged) (.cons .announced (.cons (.attempt hwrite) .nil)),
          .stuck hv⟩
      | ok draft' =>
        obtain ⟨es, hcourse, hrevised⟩ := ih h
        exact ⟨_, .cons (.judged hjudged) (.cons .announced (.cons (.attempt hwrite) hcourse)),
          .again hv hrevised⟩

/-! ## What the loop keeps -/

/-- Each revision is one attempt. -/
theorem Revised.attempts_eq {left count : Nat} {draft : String} {es : List Episode} {r : Report}
    (h : Revised c left count draft es r) : count + attempts es = r.revisionCount := by
  induction h with
  | accepted _ => rfl
  | exceeded _ => rfl
  | stuck _ => rfl
  | again _ _ ih =>
    rw [← ih]
    simp only [attempts, List.countP_cons, Episode.isAttempt]
    simp
    omega

/-- There are not more revisions than are left. -/
theorem Revised.count_le {left count : Nat} {draft : String} {es : List Episode} {r : Report}
    (h : Revised c left count draft es r) : r.revisionCount ≤ count + left := by
  induction h with
  | accepted _ => exact Nat.le_add_right ..
  | exceeded _ => exact Nat.le_add_right ..
  | stuck _ =>
    change _ + 1 ≤ _
    omega
  | again _ _ ih => omega

/-- The report has the last draft for its text. -/
theorem Revised.getLast?_drafts {left count : Nat} {draft : String} {es : List Episode} {r : Report}
    (h : Revised c left count draft es r) : (draft :: drafts es).getLast? = some r.content := by
  induction h with
  | accepted _ => rfl
  | exceeded _ => rfl
  | stuck _ => rfl
  | @again _ _ _ draft' _ es r _ _ ih =>
    calc _ = (draft' :: drafts es).getLast? := rfl
      _ = some r.content := ih

/-- The report lists the sources of the context. -/
theorem Revised.sources_eq {left count : Nat} {draft : String} {es : List Episode} {r : Report}
    (h : Revised c left count draft es r) : r.sources = c.sources := by
  induction h with
  | accepted _ => rfl
  | exceeded _ => rfl
  | stuck _ => rfl
  | again _ _ ih => exact ih

/-- How the work on a report ends: with the last episode and what the report says of it. -/
inductive Ending (maxRevisions : Nat) (r : Report) : List Episode → Prop where
  /-- The text of the report passes. -/
  | accepted (es : List Episode) {v : Verdict} (hv : v.passes = true)
    (hstatus : r.status = .accepted) (hflag : r.maxRevisionsExceeded = false) :
    Ending maxRevisions r (es ++ [.judged r.content v])
  /-- The text of the report does not pass, and all revisions have been made. -/
  | exceeded (es : List Episode) {v : Verdict} (hv : v.passes = false)
    (hstatus : r.status = .exhausted) (hflag : r.maxRevisionsExceeded = true)
    (hcount : r.revisionCount = maxRevisions) :
    Ending maxRevisions r (es ++ [.judged r.content v])
  /-- The text of the report does not pass, is to be revised as the reviewer asks, and cannot be. -/
  | stuck (es : List Episode) {v : Verdict} {e : ResearchError} (hv : v.passes = false)
    (hstatus : r.status = .exhausted) (hflag : r.maxRevisionsExceeded = false)
    (hcount : 1 ≤ r.revisionCount) :
    Ending maxRevisions r (es ++ [.judged r.content v, .announced r.revisionCount (feedback v),
      .attempt (some (r.content, feedback v)) (.error e)])

/-- More episodes before do not change how the work ends. -/
theorem Ending.append_left {r : Report} {es : List Episode} (h : Ending maxRevisions r es)
    (before : List Episode) : Ending maxRevisions r (before ++ es) := by
  cases h with
  | accepted es hv hstatus hflag =>
    rw [← List.append_assoc]
    exact .accepted _ hv hstatus hflag
  | exceeded es hv hstatus hflag hcount =>
    rw [← List.append_assoc]
    exact .exceeded _ hv hstatus hflag hcount
  | stuck es hv hstatus hflag hcount =>
    rw [← List.append_assoc]
    exact .stuck _ hv hstatus hflag hcount

/-- The loop ends as its report says. -/
theorem Revised.ending {left count : Nat} {draft : String} {es : List Episode} {r : Report}
    (h : Revised c left count draft es r) : Ending (count + left) r es := by
  induction h with
  | accepted hv => exact .accepted [] hv rfl rfl
  | exceeded hv => exact .exceeded [] hv rfl rfl rfl
  | @stuck left count draft v e hv => exact .stuck [] hv rfl rfl (Nat.le_add_left 1 count)
  | @again left count draft draft' v es r hv _ ih =>
    have hbound : count + (left + 1) = count + 1 + left := by omega
    rw [hbound]
    exact ih.append_left [.judged draft v, .announced (count + 1) (feedback v),
      .attempt (some (draft, feedback v)) (.ok draft')]

/-! ## The report as a whole -/

/-- However the work on a report is held, it goes through some episodes of its relation. -/
theorem exists_synthesized_of_held {t : List Exchange} {r : Report}
    (h : Held (synthesize s a c maxRevisions) t r) :
    ∃ es, Course s a c (Relationship.detect c.findings) maxRevisions es t ∧
      Synthesized c maxRevisions es r := by
  rw [synthesize, held_bind_iff] at h
  obtain ⟨t₁, t₂, result, rfl, hwrite, h⟩ := h
  cases result with
  | error e =>
    obtain ⟨rfl, rfl⟩ := held_pure_iff.1 h
    exact ⟨_, .cons (.attempt hwrite) .nil, .fallback e⟩
  | ok draft =>
    obtain ⟨es, hcourse, hrevised⟩ := revised_of_held h
    exact ⟨_, .cons (.attempt hwrite) hcourse, .revised hrevised⟩

/-- However it is written, a report lists the sources of its context. -/
theorem sources_of_held {t : List Exchange} {r : Report}
    (h : Held (synthesize s a c maxRevisions) t r) : r.sources = c.sources := by
  obtain ⟨es, -, hsynthesized⟩ := exists_synthesized_of_held h
  cases hsynthesized with
  | fallback e => rfl
  | revised hrevised => exact hrevised.sources_eq

/-- What a report says of itself is what happened in these episodes. -/
structure Accounted (c : ResearchContext) (maxRevisions : Nat) (es : List Episode) (r : Report) :
    Prop where
  /-- The writer is asked once and then once for each revision. -/
  attempts_eq : attempts es = r.revisionCount + 1
  /-- There are not more revisions than allowed. -/
  count_le : r.revisionCount ≤ maxRevisions
  /-- An accepted report keeps the relationship rule and is the very text that passed at the end. -/
  accepted : r.status = .accepted → (Relationship.detect c.findings).check r.content = none ∧
    r.maxRevisionsExceeded = false ∧
    ∃ before v, es = before ++ [.judged r.content v] ∧ v.passes = true
  /-- A report for which no revision was left is the very text that failed at the end. -/
  exceeded : r.maxRevisionsExceeded = true → r.status = .exhausted ∧
    r.revisionCount = maxRevisions ∧
    ∃ before v, es = before ++ [.judged r.content v] ∧ v.passes = false
  /-- Any other report comes from a writer who failed: it is the fallback if there was no draft, and
  the last draft if that was rejected and could not be revised. -/
  failed : r.status = .exhausted → r.maxRevisionsExceeded = false →
    (∃ e, es = [.attempt none (.error e)] ∧ r.revisionCount = 0 ∧ r.content = fallbackReport c e) ∨
    ∃ before v e, es = before ++ [.judged r.content v, .announced r.revisionCount (feedback v),
        .attempt (some (r.content, feedback v)) (.error e)] ∧ v.passes = false ∧
      1 ≤ r.revisionCount ∧ (drafts es).getLast? = some r.content
  /-- The report lists the sources of its context. -/
  sources_eq : r.sources = c.sources
  /-- The report ends in the generated section of sources. -/
  endsWith : EndsWith (closing c) r.content

/-- The fallback accounts for a first draft that could not be written. -/
theorem accounted_fallback (c : ResearchContext) (maxRevisions : Nat) (e : ResearchError) :
    Accounted c maxRevisions [.attempt none (.error e)]
      (finish c (fallbackReport c e) .exhausted 0 false) where
  attempts_eq := rfl
  count_le := Nat.zero_le _
  accepted h := nomatch h
  exceeded h := absurd h Bool.false_ne_true
  failed _ _ := .inl ⟨e, rfl, rfl, rfl⟩
  sources_eq := rfl
  endsWith := endsWith_fallbackReport c e

/-- The report that comes out of the loop accounts for the first draft and the loop. -/
theorem accounted_revised {draft : String} {es : List Episode} {t : List Exchange} {r : Report}
    (hcourse : Course s a c (Relationship.detect c.findings) maxRevisions
      (.attempt none (.ok draft) :: es) t)
    (hrevised : Revised c maxRevisions 0 draft es r) :
    Accounted c maxRevisions (.attempt none (.ok draft) :: es) r := by
  have hlast : (drafts (.attempt none (.ok draft) :: es)).getLast? = some r.content :=
    hrevised.getLast?_drafts
  have hattempts := hrevised.attempts_eq
  have hcount := hrevised.count_le
  have hending := hrevised.ending.append_left [.attempt none (.ok draft)]
  rw [Nat.zero_add] at hattempts hcount hending
  rw [List.singleton_append] at hending
  refine ⟨?_, hcount, ?_, ?_, ?_, hrevised.sources_eq,
    hcourse.endsWith (List.mem_of_getLast? hlast)⟩
  · rw [← hattempts]
    exact List.countP_cons_of_pos rfl
  -- the episodes get a name, so that their ending can be taken apart
  · intro hstatus
    generalize Episode.attempt none (.ok draft) :: es = all at *
    cases hending with
    | accepted before hv _ hflag =>
      exact ⟨hcourse.check_eq_none (by simp) hv, hflag, before, _, rfl, hv⟩
    | exceeded _ _ hexhausted => exact absurd (hexhausted.symm.trans hstatus) (by decide)
    | stuck _ _ hexhausted => exact absurd (hexhausted.symm.trans hstatus) (by decide)
  · intro hflag
    generalize Episode.attempt none (.ok draft) :: es = all at *
    cases hending with
    | accepted _ _ _ hfalse => exact absurd (hfalse.symm.trans hflag) (by decide)
    | exceeded before hv hexhausted _ hbound => exact ⟨hexhausted, hbound, before, _, rfl, hv⟩
    | stuck _ _ _ hfalse => exact absurd (hfalse.symm.trans hflag) (by decide)
  · intro hstatus hflag
    generalize Episode.attempt none (.ok draft) :: es = all at *
    cases hending with
    | accepted _ _ haccepted => exact absurd (haccepted.symm.trans hstatus) (by decide)
    | exceeded _ _ _ htrue => exact absurd (htrue.symm.trans hflag) (by decide)
    | stuck before hv _ _ hone => exact .inr ⟨before, _, _, rfl, hv, hone, hlast⟩

/-- The report accounts for the work on it. -/
theorem Synthesized.accounted {es : List Episode} {t : List Exchange} {r : Report}
    (h : Synthesized c maxRevisions es r)
    (hcourse : Course s a c (Relationship.detect c.findings) maxRevisions es t) :
    Accounted c maxRevisions es r := by
  cases h with
  | fallback e => exact accounted_fallback c maxRevisions e
  | revised hrevised => exact accounted_revised hcourse hrevised

/-- Whatever the services answer, the exchanges of the work on a report are those of a series of
episodes in which each one follows from what came before: a first draft is asked for, each draft is
judged, and one that is rejected is revised as the reviewer asks while revisions are left. The
report is the one that these episodes lead to, and it accounts for them: the writer is asked at most
once more than there are revisions allowed, what is accepted is what passed, and the sources of the
context stand at the end - just as they were generated, if the context is a consolidated one. -/
theorem report_synthesize {σ : Type} (services : Services σ) (state : σ) (s : ModelSettings)
    (a : Assignment) (c : ResearchContext) (maxRevisions : Nat) :
    let work := synthesize s a c maxRevisions
    let report := (work.run services state).1
    ∃ es, Course s a c (Relationship.detect c.findings) maxRevisions es
        (work.transcript services state) ∧
      Synthesized c maxRevisions es report ∧
      Accounted c maxRevisions es report ∧
      ∀ policy maxSources brief notes subject,
        c = Consolidation.consolidate policy maxSources brief notes subject →
          EndsWith (sourcesSection c) report.content := by
  intro work report
  obtain ⟨es, hcourse, hsynthesized⟩ := exists_synthesized_of_held (held_run services work state)
  have haccounted := hsynthesized.accounted hcourse
  refine ⟨es, hcourse, hsynthesized, haccounted, fun policy maxSources brief notes subject hc => ?_⟩
  have hclosing : closing c = "\n\n" ++ sourcesSection c :=
    hc ▸ closing_consolidate policy maxSources brief notes subject
  obtain ⟨body, hbody⟩ := haccounted.endsWith
  exact ⟨body ++ "\n\n", by rw [hbody, hclosing, String.append_assoc]⟩

end CitedReport.Synthesis
