import CitedReport.Text
import CitedReport.Json.Record

/-!
# The subject of a report

A report profiles a company, a person or a project.
-/

namespace CitedReport

/-- What kind of entity a report profiles. -/
inductive SubjectType where
  /-- A company or another organization. -/
  | company
  /-- A person. -/
  | person
  /-- A project. -/
  | project
deriving DecidableEq, Repr, Inhabited

namespace SubjectType

/-- The word for a kind of subject. -/
def name : SubjectType → String
  | .company => "company"
  | .person => "person"
  | .project => "project"

/-- The kind with exactly this word. -/
def ofName? (s : String) : Option SubjectType :=
  if s = "company" then some .company
  else if s = "person" then some .person
  else if s = "project" then some .project
  else none

/-- The kind that a user's word means, in any letter case; otherwise the word as it was
understood. -/
def parse (s : String) : Except String SubjectType :=
  let word := Text.lower (Text.trim s)
  if word = "company" ∨ word = "organization" ∨ word = "organisation" then .ok .company
  else if word = "person" ∨ word = "individual" then .ok .person
  else if word = "project" then .ok .project
  else .error word

/-- What a user is told about a word that means no kind of subject. -/
def unknownMessage (word : String) : String :=
  "unknown subject type '" ++ word ++ "' (expected company, person, or project)"

/-- A kind of subject in JSON. -/
def toJson (t : SubjectType) : Json := .string t.name

/-- Reads a kind of subject. -/
def ofJson? (j : Json) : Option SubjectType := (Json.unitName? j).bind ofName?

end SubjectType

end CitedReport
