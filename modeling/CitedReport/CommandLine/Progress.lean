import CitedReport.Session
import CitedReport.Text

/-!
# Progress on the terminal

What the user sees while a run goes on: the stages as they are entered, the tasks as they are done,
numbered, and the revisions with the beginning of what was asked for.
-/

namespace CitedReport.CommandLine

/-- The colours that are used. -/
inductive Colour where
  /-- Failures. -/
  | red
  /-- Successes. -/
  | green
  /-- Things to note. -/
  | yellow
  /-- Stages. -/
  | cyan
  /-- Figures. -/
  | gray
deriving DecidableEq, Repr

/-- The number of a colour on a terminal. -/
def Colour.code : Colour → Nat
  | .red => 31
  | .green => 32
  | .yellow => 33
  | .cyan => 36
  | .gray => 90

/-- A text in a colour. -/
def coloured (colour : Colour) (s : String) : String :=
  "\x1b[" ++ toString colour.code ++ "m" ++ s ++ "\x1b[0m"

/-- How many tasks are done, and what happens next. -/
structure Progress where
  /-- The number of tasks that are done. -/
  tasksDone : Nat := 0
deriving DecidableEq, Repr

namespace Progress

/-- The progress after an event. -/
def after (p : Progress) : RunEvent → Progress
  | .taskComplete _ _ => ⟨p.tasksDone + 1⟩
  | _ => p

/-- The line for an event; the stages in which a run ends have none. -/
def line? (p : Progress) : RunEvent → Option String
  | .stage stage =>
    if stage.isTerminal then none else some (coloured .cyan "==>" ++ " " ++ stage.label)
  | .taskComplete group failed =>
    let number := "[" ++ toString (p.tasksDone + 1) ++ "] "
    let title := ((Text.lines group).head?).getD ""
    let mark :=
      if failed then coloured .red (number ++ "failed:") else coloured .green (number ++ "done:")
    some ("  " ++ mark ++ " " ++ title)
  | .revision number bound feedback =>
    some ("  " ++
      coloured .yellow ("revision " ++ toString number ++ "/" ++ toString bound ++ ":") ++ " " ++
      Text.take 120 feedback)

/-- The lines for events. -/
def lines : Progress → List RunEvent → List String
  | _, [] => []
  | p, e :: rest => (p.line? e).toList ++ lines (p.after e) rest

end Progress

end CitedReport.CommandLine
