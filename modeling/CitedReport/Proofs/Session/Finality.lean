import CitedReport.Proofs.Session.Trail

/-!
# The end of a session

A session is moved from stage to stage and told of failures. The first step that leads to a final
stage ends it: later steps do not move it, and its stages and timings are those of the steps up to
there (`moves`).

Its error is no part of that. A failure is noted before it is looked at whether the session goes on,
so one that is told of after the end still sets the error, of a complete session, too
(`not_frozen_complete`). `recorded_after` says what holds: after the end all but the error stays,
the error is the failure that the session was told of last, and as long as it is told of failures
only while it goes on, a session with an error has failed.
-/

namespace CitedReport.RunSession

/-- What can be done to a session. -/
inductive Step where
  /-- It is moved to a stage. -/
  | move (now : Timestamp) (stage : RunStage)
  /-- It is told of a failure. -/
  | fail (now : Timestamp) (error : String)

namespace Step

/-- The stage that the session is to be in afterwards. -/
def target : Step → RunStage
  | .move _ stage => stage
  | .fail _ _ => .failed

/-- When it is taken. -/
def time : Step → Timestamp
  | .move now _ => now
  | .fail now _ => now

/-- The failure that the session is told of, if there is one. -/
def error? : Step → Option String
  | .move _ _ => none
  | .fail _ error => some error

end Step

/-- A session after a step. -/
def take (s : RunSession) : Step → RunSession
  | .move now stage => s.transition now stage
  | .fail now error => s.fail now error

/-- A session after some steps. -/
def after (s : RunSession) (steps : List Step) : RunSession := steps.foldl take s

/-- The failure that a session is told of last. -/
def lastError? (steps : List Step) : Option String := (steps.filterMap Step.error?).getLast?

/-- The steps that move a session from a stage on, up to one that ends it. -/
def moves : RunStage → List Step → List Step
  | _, [] => []
  | stage, step :: rest => if stage.isTerminal then [] else step :: moves step.target rest

/-! ## One step -/

/-- A session is over when its stage is a final one. -/
theorem isTerminal_stage (s : RunSession) : s.stage.isTerminal = !s.isActive :=
  (Bool.not_not _).symm

/-- A step moves a session that goes on, and notes the stage that is left. -/
theorem take_of_isActive {s : RunSession} (h : s.isActive = true) (step : Step) :
    s.take step = { s with
      stage := step.target
      updatedAt := step.time
      timings := s.timings ++ [⟨s.stage, step.time.millisSince s.updatedAt⟩]
      error := step.error?.or s.error } := by
  have hstage : ¬ s.stage.isTerminal = true := by simp [isTerminal_stage, h]
  cases step with
  | move now stage =>
    rw [take, transition, if_neg hstage]
    rfl
  | fail now error =>
    rw [take, fail, transition, if_neg hstage]
    rfl

/-- Of a session that is over a step leaves all but the error as it is. -/
theorem take_of_not_active {s : RunSession} (h : s.isActive = false) (step : Step) :
    s.take step = { s with error := step.error?.or s.error } := by
  cases step with
  | move now stage => exact transition_of_not_active h now stage
  | fail now error => exact transition_of_not_active (s := { s with error := some error }) h now _

/-- A step of either kind sets the error if it has one, whether the session is over or not. -/
theorem error_take (s : RunSession) (step : Step) :
    (s.take step).error = step.error?.or s.error := by
  cases hactive : s.isActive with
  | true => rw [take_of_isActive hactive]
  | false => rw [take_of_not_active hactive]

/-! ## All steps -/

/-- Steps are taken one after the other. -/
theorem after_cons (s : RunSession) (step : Step) (rest : List Step) :
    s.after (step :: rest) = (s.take step).after rest :=
  List.foldl_cons ..

/-- Later steps are taken from where the earlier ones have led. -/
theorem after_append (s : RunSession) (steps later : List Step) :
    s.after (steps ++ later) = (s.after steps).after later :=
  List.foldl_append

/-- The last failure is among the later steps, or it is that of the first one. -/
theorem lastError?_cons (step : Step) (rest : List Step) :
    lastError? (step :: rest) = (lastError? rest).or step.error? := by
  unfold lastError?
  rw [List.filterMap_cons]
  cases step.error? with
  | none => rw [Option.or_none]
  | some error => rw [List.getLast?_cons, Option.or_some]

/-- The error is the failure that the session was told of last. -/
theorem error_after (s : RunSession) (steps : List Step) :
    (s.after steps).error = (lastError? steps).or s.error := by
  induction steps generalizing s with
  | nil => rfl
  | cons step rest ih => rw [after_cons, ih, error_take, lastError?_cons, Option.or_assoc]

/-- Of a session that is over nothing but the error changes any more. -/
theorem after_of_not_active {s : RunSession} (h : s.isActive = false) (steps : List Step) :
    s.after steps = { s with error := (lastError? steps).or s.error } := by
  induction steps generalizing s with
  | nil => rfl
  | cons step rest ih =>
    have htake := take_of_not_active h step
    have hover : (s.take step).isActive = false := by
      rw [htake]
      exact h
    rw [after_cons, ih hover, htake, lastError?_cons, Option.or_assoc]

/-- A session has been in the stages that it was moved to, up to one that ended it. -/
theorem trail_after (s : RunSession) (steps : List Step) :
    (s.after steps).trail = s.trail ++ (moves s.stage steps).map Step.target := by
  induction steps generalizing s with
  | nil => exact (List.append_nil _).symm
  | cons step rest ih =>
    cases hactive : s.isActive with
    | true =>
      rw [after_cons, ih, moves, if_neg (by simp [isTerminal_stage, hactive]),
        take_of_isActive hactive]
      simp [trail]
    | false =>
      rw [after_of_not_active hactive, moves, if_pos (by simp [isTerminal_stage, hactive]),
        List.map_nil, List.append_nil]
      rfl

/-- Only stages that are not final are left. -/
theorem isTerminal_of_mem_timings {s : RunSession} (h : ∀ t ∈ s.timings, t.stage.isTerminal = false)
    (steps : List Step) : ∀ t ∈ (s.after steps).timings, t.stage.isTerminal = false := by
  induction steps generalizing s with
  | nil => exact h
  | cons step rest ih =>
    rw [after_cons]
    refine ih ?_
    cases hactive : s.isActive with
    | true =>
      rw [take_of_isActive hactive]
      intro t ht
      rcases List.mem_append.1 ht with ht | ht
      · exact h t ht
      · rw [List.mem_singleton.1 ht, isTerminal_stage, hactive]
        rfl
    | false =>
      rw [take_of_not_active hactive]
      exact h

/-- The session goes on whenever it is told of a failure. -/
def FailsInTime (s : RunSession) (steps : List Step) : Prop :=
  ∀ before now error rest, steps = before ++ .fail now error :: rest →
    (s.after before).isActive = true

/-- Then it has an error only if it has failed. -/
theorem stage_eq_failed {s : RunSession} {steps : List Step} (h : s.FailsInTime steps)
    (hs : s.error ≠ none → s.stage = .failed) (herror : (s.after steps).error ≠ none) :
    (s.after steps).stage = .failed := by
  induction steps generalizing s with
  | nil => exact hs herror
  | cons step rest ih =>
    rw [after_cons] at herror ⊢
    refine ih (fun before now error after hsplit => ?_) ?_ herror
    · rw [← after_cons]
      exact h (step :: before) now error after (by rw [hsplit, List.cons_append])
    · cases step with
      | move now stage =>
        intro hset
        rw [error_take, Step.error?, Option.none_or] at hset
        -- a session with an error is over, so this step does not move it
        have hfailed := hs hset
        have hover : s.isActive = false := by rw [isActive, hfailed]; rfl
        rw [take_of_not_active hover]
        exact hfailed
      | fail now error =>
        intro _
        have hactive : s.isActive = true := h [] now error rest rfl
        rw [take_of_isActive hactive]
        rfl

/-! ## What a session has on record -/

/-- What a session has on record after some steps. -/
structure Recorded (first : RunSession) (steps : List Step) : Prop where
  /-- It has been in the stages that it was moved to, up to one that ended it. -/
  trail_eq : (first.after steps).trail = first.trail ++ (moves first.stage steps).map Step.target
  /-- No final stage has been left. -/
  left_not_final : ∀ t ∈ (first.after steps).timings, t.stage.isTerminal = false
  /-- If it is over, later steps leave all but the error as it is. -/
  closed : (first.after steps).isActive = false → ∀ later,
    first.after (steps ++ later)
      = { first.after steps with error := (lastError? later).or (first.after steps).error }
  /-- The error is the failure that it was told of last. -/
  error_eq : (first.after steps).error = lastError? steps
  /-- If it went on whenever it was told of one, it has an error only if it has failed. -/
  failed : first.FailsInTime steps → (first.after steps).error ≠ none →
    (first.after steps).stage = .failed

/-- A session has its moves on record, up to its end, and the last failure, whenever that was. -/
theorem recorded_after (id : Identifier) (query : String) (subject : SubjectType)
    (now : Timestamp) (steps : List Step) : Recorded (start id query subject now) steps where
  trail_eq := trail_after _ steps
  left_not_final := isTerminal_of_mem_timings (List.forall_mem_nil _) steps
  closed hover later := by rw [after_append, after_of_not_active hover]
  error_eq := by rw [error_after, start, Option.or_none]
  failed hintime := stage_eq_failed hintime fun hset => absurd rfl hset

/-- A session that is over does not stay as it is, and one with an error need not have failed: a
complete session is told of a failure. -/
theorem not_frozen_complete :
    (¬ ∀ (id : Identifier) (query : String) (subject : SubjectType) (now : Timestamp)
      (steps later : List Step), ((start id query subject now).after steps).isActive = false →
        (start id query subject now).after (steps ++ later)
          = (start id query subject now).after steps) ∧
    ¬ ∀ (id : Identifier) (query : String) (subject : SubjectType) (now : Timestamp)
      (steps : List Step), ((start id query subject now).after steps).error ≠ none →
        ((start id query subject now).after steps).stage = .failed := by
  let steps : List Step := [.move default .complete]
  let late : List Step := [.fail default "late"]
  constructor
  · intro hfrozen
    have hsame := hfrozen default "Acme" .company default steps late rfl
    exact absurd (congrArg RunSession.error hsame) (by decide)
  · intro hfailed
    have hstage := hfailed default "Acme" .company default (steps ++ late) (by decide)
    exact absurd hstage (by decide)

end CitedReport.RunSession
