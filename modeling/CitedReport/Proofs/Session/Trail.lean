import Mathlib.Data.List.Basic
import CitedReport.Session

/-!
# The trail of a session

A session notes each stage that it leaves, so the stages it has been in are those of its timings,
and the present one. A move adds one stage to this trail (`RunSession.trail_transition`), unless the
session is over; then nothing moves it (`RunSession.transition_of_not_active`).
-/

namespace CitedReport.RunSession

/-- The stages that a session has been in, up to the present one. -/
def trail (s : RunSession) : List RunStage := s.timings.map StageTiming.stage ++ [s.stage]

/-- A session starts by clarifying. -/
theorem trail_start (id : Identifier) (query : String) (subject : SubjectType) (now : Timestamp) :
    (start id query subject now).trail = [.clarifying] :=
  rfl

/-- The stages that have been left are those before the last one. -/
theorem map_stage_timings (s : RunSession) :
    s.timings.map StageTiming.stage = s.trail.dropLast :=
  List.dropLast_concat.symm

/-- The trail leads to the present stage. -/
theorem getLast?_trail (s : RunSession) : s.trail.getLast? = some s.stage :=
  List.getLast?_concat

/-- A session that is over stays as it is. -/
theorem transition_of_not_active {s : RunSession} (h : s.isActive = false) (now : Timestamp)
    (stage : RunStage) : s.transition now stage = s := by
  unfold isActive at h
  exact if_pos (by simpa using h)

/-- One that is not moves on to the stage. -/
theorem stage_transition {s : RunSession} (h : s.isActive = true) (now : Timestamp)
    (stage : RunStage) : (s.transition now stage).stage = stage := by
  unfold isActive at h
  rw [transition, if_neg (by simpa using h)]

/-- It goes on as long as the stage is not a final one. -/
theorem isActive_transition {s : RunSession} (h : s.isActive = true) (now : Timestamp)
    {stage : RunStage} (hstage : stage.isTerminal = false) :
    (s.transition now stage).isActive = true := by
  rw [isActive, stage_transition h, hstage]
  rfl

/-- A move adds one stage. -/
theorem trail_transition {s : RunSession} (h : s.isActive = true) (now : Timestamp)
    (stage : RunStage) : (s.transition now stage).trail = s.trail ++ [stage] := by
  rw [trail, stage_transition h]
  unfold isActive at h
  have hleft : (s.transition now stage).timings
      = s.timings ++ [⟨s.stage, now.millisSince s.updatedAt⟩] := by
    rw [transition, if_neg (by simpa using h)]
  rw [hleft, List.map_append, List.map_singleton, trail]

/-- A failure is a move to the failed stage. -/
theorem trail_fail {s : RunSession} (h : s.isActive = true) (now : Timestamp) (error : String) :
    (s.fail now error).trail = s.trail ++ [.failed] :=
  trail_transition (s := { s with error := some error }) h now .failed

/-- The session goes on, and this is its trail. -/
structure Underway (s : RunSession) (trail : List RunStage) : Prop where
  /-- It is not over. -/
  isActive : s.isActive = true
  /-- It has been in these stages. -/
  trail_eq : s.trail = trail

/-- A session that starts goes on. -/
theorem underway_start (id : Identifier) (query : String) (subject : SubjectType)
    (now : Timestamp) : (start id query subject now).Underway [.clarifying] :=
  ⟨rfl, trail_start id query subject now⟩

/-- It goes on after a step to a stage that is not the end. -/
theorem Underway.transition {s : RunSession} {trail : List RunStage} (h : s.Underway trail)
    (now : Timestamp) (stage : RunStage) (hstage : stage.isTerminal = false) :
    (s.transition now stage).Underway (trail ++ [stage]) :=
  ⟨isActive_transition h.isActive now hstage, by rw [trail_transition h.isActive, h.trail_eq]⟩

end CitedReport.RunSession
