import Mathlib.Data.Finset.Card
import Mathlib.Data.List.Nodup
import CitedReport.Supervisor
import CitedReport.Proofs.Dialogue.Crew

/-!
# Research side by side loses nothing and does nothing twice

A supervisor hands all planned groups to a crew of at least one seat, and takes in what comes back
in the order in which it comes. One round is enough, whatever its limits are: a crew holds every
dialogue to its end, so that no group remains. Groups are told apart by their text only where they
are ticked off; a text that is planned twice is researched twice, and ticked off once.

`fannedOut_supervise` puts this together from what a schedule does (`Schedule.beginnings_eq`,
`Schedule.inHand_le`, `Schedule.accounts`, `Schedule.endings_perm`) and from what a round makes of
its results (`foldl_merge`). Which group ends first is not fixed.
-/

namespace CitedReport

open Dialogue

/-! ## What is taken in -/

namespace SupervisorState

/-- Nothing is done before anything is taken in. -/
theorem remaining_empty (groups : List String) :
    ({} : SupervisorState).remaining groups = groups := by
  rw [remaining, List.filter_eq_self]
  exact fun _ _ => rfl

/-- Nothing remains when all groups are done. -/
theorem remaining_eq_nil {s : SupervisorState} {groups : List String}
    (h : ∀ g ∈ groups, g ∈ s.completedGroups) : s.remaining groups = [] := by
  rw [remaining, List.filter_eq_nil_iff]
  intro g hg
  simpa using h g hg

/-- A group that is ticked off is added to those that are, unless it is one of them. -/
theorem eraseDups_append_singleton (done : List String) (g : String) :
    (done ++ [g]).eraseDups
      = if done.eraseDups.contains g then done.eraseDups else done.eraseDups ++ [g] := by
  rw [List.eraseDups_append]
  by_cases hg : g ∈ done
  · rw [if_pos (by simpa using hg)]
    simp [List.removeAll, hg]
  · rw [if_neg (by simpa using hg)]
    simp [List.removeAll, hg, List.eraseDups_cons]

/-- Each group is ticked off once. -/
theorem nodup_eraseDups (done : List String) : done.eraseDups.Nodup := by
  induction done using List.reverseRecOn with
  | nil => exact List.nodup_nil
  | append_singleton done g ih =>
    rw [eraseDups_append_singleton]
    split
    · exact ih
    · next hg =>
      rw [← List.concat_eq_append]
      exact List.Nodup.concat (by simpa using hg) ih

/-- Results are taken in one behind the other. -/
theorem foldl_merge (results : List (String × TaskResult)) (done : List String)
    (s : SupervisorState) (hdone : s.completedGroups = done.eraseDups) :
    results.foldl (fun s r => s.merge r.1 r.2) s =
      { iterations := s.iterations
        completedGroups := (done ++ results.map Prod.fst).eraseDups
        notes := s.notes ++ results.map fun r => r.2.finding
        rawNotes := s.rawNotes ++ results.flatMap fun r => r.2.rawNotes } := by
  -- `done` are the groups so far, with repeats, so that the induction can go on behind each result
  induction results generalizing done s with
  | nil =>
    cases s
    simp only [List.foldl_nil, List.map_nil, List.flatMap_nil, List.append_nil] at hdone ⊢
    rw [hdone]
  | cons r rest ih =>
    have hmerge : (s.merge r.1 r.2).completedGroups = (done ++ [r.1]).eraseDups := by
      rw [eraseDups_append_singleton, ← hdone]
      rfl
    rw [List.foldl_cons, ih (done ++ [r.1]) _ hmerge]
    simp [merge]

end SupervisorState

namespace Supervisor

variable {unit : ResearchUnit} {limits : Limits} {groups : List String} {subject : SubjectType}
  {trace : List Exchange} {state : SupervisorState}

/-! ## One round -/

/-- What the observer is told about a result, and nothing comes back. -/
def announcement (r : String × TaskResult) : List Exchange :=
  [⟨.report (.taskComplete r.1 r.2.isFailure), ()⟩]

/-- An announcement is told as it stands. -/
theorem held_announce (r : String × TaskResult) (t : List Exchange) (u : Unit)
    (h : Held (announce r) t u) : t = announcement r :=
  held_ask_done_iff.1 h

/-- A state after one round: the results as they came. -/
def taken (results : List (String × TaskResult)) : SupervisorState where
  iterations := 1
  completedGroups := (results.map Prod.fst).eraseDups
  notes := results.map fun r => r.2.finding
  rawNotes := results.flatMap fun r => r.2.rawNotes

/-- The first round follows a schedule of all groups. -/
theorem held_round {cap : Nat} (hcap : 0 < cap)
    (h : Held (round unit cap subject groups {}) trace state) :
    ∃ log, Schedule cap 0 [] (groups.map (hold unit subject)) log ∧
      trace = heard announcement 0 log ∧ state = taken ((endings log).map Prod.snd) := by
  obtain ⟨t, t', results, rfl, hcrew, hstate⟩ := held_bind_iff.1 h
  obtain ⟨log, hlog, rfl, rfl⟩ := held_crew hcap held_announce hcrew
  obtain ⟨rfl, rfl⟩ := held_pure_iff.1 hstate
  refine ⟨log, hlog, by simp, ?_⟩
  rw [SupervisorState.foldl_merge _ [] {} rfl]
  rfl

/-- Whoever comes to an end in a schedule has held a planned group. -/
theorem group_of_ending {cap : Nat} {log : List (Entry (String × TaskResult))}
    (hlog : Schedule cap 0 [] (groups.map (hold unit subject)) log) {i : Nat}
    {r : String × TaskResult} (hr : (i, r) ∈ endings log) : groups[i]? = some r.1 := by
  obtain ⟨e, he, hended⟩ := List.mem_filterMap.1 hr
  obtain ⟨d, xs, a, hd, hheld, hmove⟩ := hlog.held_of_mem he
  rw [List.getElem?_map, Option.map_eq_some_iff] at hd
  obtain ⟨g, hg, rfl⟩ := hd
  obtain ⟨_, _, result, -, -, hdone⟩ := held_bind_iff.1 hheld
  obtain ⟨-, rfl⟩ := held_pure_iff.1 hdone
  rcases hmove with hmove | ⟨x, -, hmove⟩ | hmove
  · simp [Entry.ended?, hmove] at hended
  · simp [Entry.ended?, hmove] at hended
  · obtain ⟨rfl, rfl⟩ : e.place = i ∧ (g, result) = r := by simpa [Entry.ended?, hmove] using hended
    exact hg

/-- What is asked in a schedule of groups is of every kind that the research of each group keeps
to. -/
theorem asked_of_schedule {cap : Nat} {p : Query → Prop}
    {log : List (Entry (String × TaskResult))}
    (hlog : Schedule cap 0 [] (groups.map (hold unit subject)) log)
    (hunit : ∀ g ∈ groups, (unit g subject).Asks p) {e : Entry (String × TaskResult)} (he : e ∈ log)
    {x : Exchange} (hx : e.move = .asks x) : p x.query := by
  obtain ⟨d, xs, a, hd, hheld, hmove⟩ := hlog.held_of_mem he
  rw [List.getElem?_map, Option.map_eq_some_iff] at hd
  obtain ⟨g, hg, rfl⟩ := hd
  have hasks : (hold unit subject g).Asks p :=
    (hunit g (List.mem_of_getElem? hg)).bind fun _ => trivial
  rw [hx] at hmove
  obtain ⟨y, hy, rfl⟩ : ∃ y ∈ xs, x = y := by simpa using hmove
  exact hasks.of_held hheld x hy

/-! ## All rounds -/

/-- What the observer is told about the end of a task, if an exchange is about that. -/
def told? (x : Exchange) : Option (String × Bool) :=
  match x.query with
  | .report (.taskComplete group failed) => some (group, failed)
  | _ => none

/-- What a log has to do with the groups that were planned, with what was asked while they were
researched and with the state in the end. The dialogues of the log are the groups in plan order, and
it holds their research with its results. -/
structure FannedOut (unit : ResearchUnit) (limits : Limits) (groups : List String)
    (subject : SubjectType) (log : List (Entry (String × TaskResult))) (trace : List Exchange)
    (state : SupervisorState) : Prop where
  /-- What was asked is what the log tells: the questions of the groups, the time between them, and
  for every end the announcement to the observer, at once. -/
  asked : trace = heard announcement 0 log
  /-- The log is in the order of time. -/
  inTime : log.Pairwise fun e e' => e.time ≤ e'.time
  /-- Every group of the plan is begun once, in plan order. -/
  begun : beginnings log = List.range groups.length
  /-- What has begun and has not ended is never more than the limit, if that is at least one. -/
  inHand : ∀ earlier, earlier <+: log →
    (beginnings earlier).length ≤ (endings earlier).length + max 1 limits.maxConcurrency
  /-- The research of every group of the plan is held from its beginning to its end. -/
  whole : ∀ i g, groups[i]? = some g → Schedule.Whole (hold unit subject g) i (own i log)
  /-- Every group of the plan ends once. -/
  ended : ((endings log).map Prod.fst).Perm (List.range groups.length)
  /-- Every result is that of its group. -/
  named : ∀ i r, (i, r) ∈ endings log → groups[i]? = some r.1
  /-- There is one round if there is anything to do. -/
  rounds : state.iterations = if groups = [] then 0 else 1
  /-- The notes are the findings in the order in which the groups end. -/
  notes : state.notes = (endings log).map fun e => e.2.2.finding
  /-- So are the raw notes. -/
  rawNotes : state.rawNotes = (endings log).flatMap fun e => e.2.2.rawNotes
  /-- The groups are ticked off in that order, each text once. -/
  completed : state.completedGroups = ((endings log).map fun e => e.2.1).eraseDups
  /-- No group remains. -/
  remaining : state.remaining groups = []
  /-- The observer is told of every end once, in the same order, when nobody else tells it. -/
  announced : (∀ g ∈ groups, (unit g subject).Asks fun q => ∀ answer, told? ⟨q, answer⟩ = none) →
    trace.filterMap told? = (endings log).map fun e => (e.2.1, e.2.2.isFailure)
  /-- One at a time, the groups end in plan order. -/
  inOrder : limits.maxConcurrency ≤ 1 → (endings log).map Prod.fst = List.range groups.length

/-- A schedule of all groups accounts for the state after one round. -/
theorem fannedOut_of_schedule {log : List (Entry (String × TaskResult))} (hgroups : groups ≠ [])
    (hlog : Schedule (max 1 limits.maxConcurrency) 0 [] (groups.map (hold unit subject)) log) :
    FannedOut unit limits groups subject log (heard announcement 0 log)
      (taken ((endings log).map Prod.snd)) where
  asked := rfl
  inTime := hlog.inTime.2
  begun := by rw [hlog.beginnings_eq, List.length_map, List.range_eq_range', List.length_nil]
  inHand earlier hearlier := by simpa using hlog.inHand_le (Nat.zero_le _) hearlier
  whole i g hg := by
    have := hlog.accounts.whole i (hold unit subject g) (by rw [List.getElem?_map, hg]; rfl)
    rwa [List.length_nil, Nat.zero_add] at this
  ended := by simpa [List.range_eq_range'] using hlog.endings_perm
  named i r hr := group_of_ending hlog hr
  rounds := (if_neg hgroups).symm
  notes := by simp [taken]
  rawNotes := by simp [taken, List.flatMap_map]
  completed := by simp [taken, Function.comp_def]
  remaining := by
    refine SupervisorState.remaining_eq_nil fun g hg => ?_
    -- the group ends at its place, and under its name
    obtain ⟨i, hi⟩ := List.mem_iff_getElem?.1 hg
    have hplace : i ∈ (endings log).map Prod.fst := by
      refine hlog.endings_perm.mem_iff.2 ?_
      have := (List.getElem?_eq_some_iff.1 hi).1
      simpa [List.mem_range'_1] using this
    obtain ⟨⟨_, r⟩, hr, rfl⟩ := List.mem_map.1 hplace
    have hname : g = r.1 := Option.some.inj (hi.symm.trans (group_of_ending hlog hr))
    rw [hname]
    exact List.mem_eraseDups.2 (List.mem_map_of_mem (List.mem_map_of_mem (f := Prod.snd) hr))
  announced hunit := by
    have hannouncement : ∀ r : String × TaskResult,
        (announcement r).filterMap told? = [(r.1, r.2.isFailure)] := fun _ => rfl
    -- what is asked while a group is researched is no announcement
    have hasked : ∀ e ∈ log, ∀ x, e.move = .asks x → told? x = none :=
      fun e he x hx => asked_of_schedule hlog hunit he hx x.answer
    rw [filterMap_heard (fun _ => rfl) hannouncement hasked 0, List.map_eq_flatMap]
  inOrder hone := by
    have hmax : max 1 limits.maxConcurrency = 1 := Nat.max_eq_left hone
    rw [hmax] at hlog
    simpa [List.range_eq_range'] using hlog.endings_of_one (Nat.zero_le _)

/-- When there is nothing to do, nothing is done. -/
theorem fannedOut_nil : FannedOut unit limits [] subject [] [] {} where
  asked := rfl
  inTime := List.Pairwise.nil
  begun := rfl
  inHand earlier hearlier := by simp [List.prefix_nil.1 hearlier]
  whole i g hg := by simp at hg
  ended := List.Perm.nil
  named i r hr := by simp at hr
  rounds := rfl
  notes := rfl
  rawNotes := rfl
  completed := rfl
  remaining := rfl
  announced _ := rfl
  inOrder _ := rfl

/-- The groups that are ticked off are those of the plan, each text once. -/
theorem FannedOut.length_completed {log : List (Entry (String × TaskResult))}
    (h : FannedOut unit limits groups subject log trace state) :
    state.completedGroups.length = groups.toFinset.card := by
  have hnodup : state.completedGroups.Nodup := by
    rw [h.completed]
    exact SupervisorState.nodup_eraseDups _
  have hsame : state.completedGroups.toFinset = groups.toFinset := by
    ext g
    rw [List.mem_toFinset, List.mem_toFinset]
    constructor
    · intro hg
      rw [h.completed, List.mem_eraseDups] at hg
      obtain ⟨⟨i, r⟩, hr, rfl⟩ := List.mem_map.1 hg
      exact List.mem_of_getElem? (h.named i r hr)
    · intro hg
      have hremaining := h.remaining
      rw [SupervisorState.remaining, List.filter_eq_nil_iff] at hremaining
      simpa using hremaining g hg
  rw [← List.toFinset_card_of_nodup hnodup, hsame]

/-- Later rounds have nothing to do. -/
theorem held_rounds_of_remaining {cap left : Nat} {s : SupervisorState}
    (hs : s.remaining groups = [])
    (h : Held (Supervisor.rounds unit cap subject groups left s) trace state) :
    trace = [] ∧ state = s := by
  cases left with
  | zero => exact held_pure_iff.1 h
  | succ left =>
    rw [Supervisor.rounds, hs] at h
    exact held_pure_iff.1 h

/-- However a supervisor's work is held, it follows a schedule of all groups that accounts for its
result. -/
theorem exists_schedule_of_held (h : Held (supervise unit limits groups subject) trace state) :
    ∃ log, Schedule (max 1 limits.maxConcurrency) 0 [] (groups.map (hold unit subject)) log ∧
      FannedOut unit limits groups subject log trace state := by
  -- there is at least one round
  obtain ⟨left, hleft⟩ : ∃ left, max 1 limits.maxRounds = left + 1 :=
    ⟨max 1 limits.maxRounds - 1, by omega⟩
  rw [supervise, hleft, Supervisor.rounds, SupervisorState.remaining_empty] at h
  cases groups with
  | nil =>
    obtain ⟨rfl, rfl⟩ := held_pure_iff.1 h
    exact ⟨[], .finished (by simp), fannedOut_nil⟩
  | cons g groups =>
    obtain ⟨t₁, t₂, s, rfl, hround, hrounds⟩ := held_bind_iff.1 h
    obtain ⟨log, hlog, rfl, rfl⟩ := held_round (by omega) hround
    have hfanned := fannedOut_of_schedule (List.cons_ne_nil g groups) hlog
    obtain ⟨rfl, rfl⟩ := held_rounds_of_remaining hfanned.remaining hrounds
    rw [List.append_nil]
    exact ⟨log, hlog, hfanned⟩

/-- However a supervisor's work is held, all groups are researched. -/
theorem exists_fannedOut_of_held (h : Held (supervise unit limits groups subject) trace state) :
    ∃ log, FannedOut unit limits groups subject log trace state :=
  (exists_schedule_of_held h).imp fun _ => And.right

/-- Whatever the services answer and however long that takes, a supervisor comes to an end, and its
work follows a schedule in which nothing is lost and nothing is done twice: every group of the plan
is begun once and in plan order, no more of them than allowed are in hand at any time, and the
results are taken in and announced in the order in which they come. -/
theorem fannedOut_supervise {σ : Type} (services : Services σ) (s : σ) (unit : ResearchUnit)
    (limits : Limits) (groups : List String) (subject : SubjectType) :
    let work := supervise unit limits groups subject
    ∃ log, FannedOut unit limits groups subject log (work.transcript services s)
      (work.run services s).1 :=
  exists_fannedOut_of_held (held_run services _ s)

end Supervisor

end CitedReport
