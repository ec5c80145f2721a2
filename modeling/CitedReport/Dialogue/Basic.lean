import CitedReport.Http
import CitedReport.Source
import CitedReport.Failure
import CitedReport.Report
import CitedReport.Session

/-!
# Dialogues with the outside

A stage of a run is a tree of questions. It puts a question to the services around it - a model, the
tools, a resolver of web addresses, the network, the clock, an observer - and goes on with the
answer; or it is done with a value. What the services do is no part of the tree, so a property of
all paths of the tree holds whatever they answer. `Dialogue.run` walks down one path with given
services.
-/

namespace CitedReport

/-- An answer that takes some time. -/
structure Delayed (α : Type) where
  /-- How long it takes, in milliseconds. -/
  delayMs : Nat
  /-- The answer. -/
  value : α

/-- A question to the outside. -/
inductive Query where
  /-- Asks the model for a completion. -/
  | complete (request : CompletionRequest)
  /-- Puts a completion on the bill. -/
  | charge (usage : TokenUsage)
  /-- Calls a tool. -/
  | callTool (name : String) (arguments : Json.Sorted)
  /-- Asks for the name of who is behind a web address. -/
  | resolve (url : String)
  /-- Sends a request over HTTP. -/
  | fetch (request : HttpRequest)
  /-- Hands a question group to someone outside, who says how long it will take. -/
  | delegate (group : String) (subject : SubjectType)
  /-- Collects what has been found out about a group handed out before. -/
  | collect (group : String) (subject : SubjectType)
  /-- Lets some milliseconds pass. -/
  | pause (ms : Nat)
  /-- Asks for the time. -/
  | now
  /-- Tells the observer. -/
  | report (event : RunEvent)

/-- What a question is answered with. -/
def Query.Answer : Query → Type
  | .complete _ => Except ModelError Completion
  | .charge _ => Unit
  | .callTool _ _ => Delayed (Except ToolError ToolOutput)
  | .resolve _ => Option String
  | .fetch _ => Except HttpFailure HttpReply
  | .delegate _ _ => Nat
  | .collect _ _ => TaskResult
  | .pause _ => Unit
  | .now => Timestamp
  | .report _ => Unit

/-- A tree of questions whose paths end in values. -/
inductive Dialogue (α : Type) where
  /-- There is nothing more to ask. -/
  | done (value : α)
  /-- Asks, and goes on with the answer. -/
  | ask (query : Query) (next : query.Answer → Dialogue α)

namespace Dialogue

variable {α β : Type}

/-- Goes on with another dialogue. -/
def bind : Dialogue α → (α → Dialogue β) → Dialogue β
  | .done a, f => f a
  | .ask q next, f => .ask q fun answer => (next answer).bind f

instance : Monad Dialogue where
  pure := .done
  bind := bind

/-- Asks for a completion. -/
def complete (request : CompletionRequest) : Dialogue (Except ModelError Completion) :=
  .ask (.complete request) .done

/-- Puts a completion on the bill. -/
def charge (usage : TokenUsage) : Dialogue Unit := .ask (.charge usage) .done

/-- Calls a tool. -/
def callTool (name : String) (arguments : Json.Sorted) :
    Dialogue (Delayed (Except ToolError ToolOutput)) :=
  .ask (.callTool name arguments) .done

/-- Asks who is behind a web address. -/
def resolve (url : String) : Dialogue (Option String) := .ask (.resolve url) .done

/-- Sends a request over HTTP, if it can be sent; without any time for the answer there is none. -/
def fetch (request : HttpRequest) : Dialogue (Except HttpFailure HttpReply) :=
  match request.prepare with
  | .error e => .done (.error e)
  | .ok r => if r.timeoutSecs = 0 then .done (.error (.timedOut r.url)) else .ask (.fetch r) .done

/-- Hands a question group to someone outside. -/
def delegate (group : String) (subject : SubjectType) : Dialogue Nat :=
  .ask (.delegate group subject) .done

/-- Collects what was found out outside. -/
def collect (group : String) (subject : SubjectType) : Dialogue TaskResult :=
  .ask (.collect group subject) .done

/-- Lets time pass; no time needs no question. -/
def pause (ms : Nat) : Dialogue Unit := if ms = 0 then .done () else .ask (.pause ms) .done

/-- Asks for the time. -/
def now : Dialogue Timestamp := .ask .now .done

/-- Tells the observer. -/
def report (event : RunEvent) : Dialogue Unit := .ask (.report event) .done

/-- Replaces every question by a dialogue that answers it. -/
def answerBy (f : (q : Query) → Dialogue q.Answer) : Dialogue α → Dialogue α
  | .done a => .done a
  | .ask q next => (f q).bind fun answer => (next answer).answerBy f

/-- Holds a dialogue and adds up what it puts on the bill, beginning with what is on it already. -/
def metered (bill : TokenUsage) : Dialogue α → Dialogue (α × TokenUsage)
  | .done a => .done (a, bill)
  | .ask (.charge usage) next =>
    .ask (.charge usage) fun answer => (next answer).metered (bill + usage)
  | .ask q next => .ask q fun answer => (next answer).metered bill

/-- Services that answer every question and change their state in doing so. -/
structure Services (σ : Type) where
  /-- The answer to a question in a state, and the next state. -/
  answer : (q : Query) → σ → q.Answer × σ

/-- Holds a dialogue with services. -/
def run {σ : Type} (services : Services σ) : Dialogue α → σ → α × σ
  | .done a, s => (a, s)
  | .ask q next, s =>
    let r := services.answer q s
    run services (next r.1) r.2

end Dialogue

end CitedReport
