import CitedReport.Dialogue.Crew

/-!
# The supervisor

All planned question groups are researched side by side, a bounded number at a time, in rounds: each
round hands out every group that is not done and waits for all of them. Results are taken in as they
come in; that order is the one in which sources are numbered later.
-/

namespace CitedReport

/-- What a supervisor has taken in. -/
structure SupervisorState where
  /-- Rounds so far. -/
  iterations : Nat := 0
  /-- The groups that are done, each once. -/
  completedGroups : List String := []
  /-- The findings as they came in. -/
  notes : List String := []
  /-- All tool outputs. -/
  rawNotes : List String := []
deriving DecidableEq, Repr

namespace SupervisorState

/-- The planned groups that are not done, in plan order. -/
def remaining (s : SupervisorState) (groups : List String) : List String :=
  groups.filter fun g => !s.completedGroups.contains g

/-- Takes in the result for a group. -/
def merge (s : SupervisorState) (group : String) (result : TaskResult) : SupervisorState :=
  { s with
    notes := s.notes ++ [result.finding]
    rawNotes := s.rawNotes ++ result.rawNotes
    completedGroups :=
      if s.completedGroups.contains group then s.completedGroups else s.completedGroups ++ [group] }

/-- A state in JSON. -/
def toJson (s : SupervisorState) : Json :=
  .object [("research_iterations", .nat s.iterations),
    ("completed_groups", Json.ofList Json.string s.completedGroups),
    ("notes", Json.ofList Json.string s.notes), ("raw_notes", Json.ofList Json.string s.rawNotes)]

/-- Reads a state. -/
def ofJson? (j : Json) : Option SupervisorState := do
  let r ← Json.record? ["research_iterations", "completed_groups", "notes", "raw_notes"] j
  let iterations ← r.required "research_iterations" Json.nat?
  let completedGroups ← r.required "completed_groups" (Json.listOf Json.string?)
  let notes ← r.required "notes" (Json.listOf Json.string?)
  let rawNotes ← r.required "raw_notes" (Json.listOf Json.string?)
  return { iterations, completedGroups, notes, rawNotes }

end SupervisorState

/-- Someone who can research one question group and always has a result. -/
abbrev ResearchUnit := String → SubjectType → Dialogue TaskResult

namespace ResearchUnit

/-- Someone outside, who is handed a group and asked for the result later. -/
def outside : ResearchUnit := fun group subject => do
  let ms ← Dialogue.delegate group subject
  Dialogue.pause ms
  Dialogue.collect group subject

end ResearchUnit

namespace Supervisor

/-- The limits of the work. -/
structure Limits where
  /-- The most rounds. -/
  maxRounds : Nat
  /-- The most groups at a time. -/
  maxConcurrency : Nat

/-- One group in hand: the group with its result. -/
def hold (unit : ResearchUnit) (subject : SubjectType) (group : String) :
    Dialogue (String × TaskResult) := do
  let result ← unit group subject
  return (group, result)

/-- What the observer is told about a result. -/
def announce (r : String × TaskResult) : Dialogue Unit :=
  Dialogue.report (.taskComplete r.1 r.2.isFailure)

/-- Hands out groups and takes in their results as they come. -/
def round (unit : ResearchUnit) (cap : Nat) (subject : SubjectType) (groups : List String)
    (state : SupervisorState) : Dialogue SupervisorState := do
  let results ← Dialogue.crew cap announce (groups.map (hold unit subject))
  let state := results.foldl (fun s r => s.merge r.1 r.2) state
  return { state with iterations := state.iterations + 1 }

/-- Holds rounds while groups remain, at most so many. -/
def rounds (unit : ResearchUnit) (cap : Nat) (subject : SubjectType) (groups : List String) :
    Nat → SupervisorState → Dialogue SupervisorState
  | 0, state => return state
  | left + 1, state =>
    match state.remaining groups with
    | [] => return state
    | batch => do
      let state ← round unit cap subject batch state
      rounds unit cap subject groups left state

/-- Researches all groups, in at least one round and at least one group at a time. -/
def supervise (unit : ResearchUnit) (limits : Limits) (groups : List String)
    (subject : SubjectType) : Dialogue SupervisorState :=
  rounds unit (max 1 limits.maxConcurrency) subject groups (max 1 limits.maxRounds) {}

end Supervisor

end CitedReport
