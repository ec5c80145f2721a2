import CitedReport.Proofs.Task.Outputs

/-!
# Tasks with one call

The shortest task that keeps anything: the model may speak once and calls a tool, the tool answers
at once, and the finding is made from that one output.
-/

namespace CitedReport.Task

open Dialogue

/-- A task with one call. -/
structure OneCall where
  /-- The only tool. -/
  tool : Tool
  /-- What it is called with. -/
  arguments : Json.Sorted
  /-- What it answers. -/
  output : ToolOutput
  /-- What is researched. -/
  group : String
  /-- About whom. -/
  subject : SubjectType

namespace OneCall

variable (o : OneCall)

/-- The toolbox with the tool. -/
def tools : Toolbox := ⟨[o.tool]⟩

/-- The call. -/
def call : ToolCall := ⟨"call-1", o.tool.name, o.arguments⟩

/-- A model for which the conversation is just short enough. -/
def model : ModelSettings :=
  { contextWindow := ModelSettings.estimateTokens (opening o.tools o.group o.subject) }

/-- The completion that asks for the call. -/
def completion : Completion := ⟨⟨.assistant, .toolCall o.call⟩, {}, "model", none⟩

/-- The output with its call. -/
def received : Received := ⟨o.tool.name, o.arguments, o.output⟩

/-- The exchanges of the task. -/
def trace : List Exchange :=
  [⟨.complete (o.model.request (opening o.tools o.group o.subject) (some o.tools.definitions)),
      .ok o.completion⟩,
    ⟨.charge {}, ()⟩, ⟨.callTool o.tool.name o.arguments, ⟨0, .ok o.output⟩⟩]

/-- The result of the task. -/
def result : TaskResult :=
  { group := o.group
    finding := assemble o.group (recordAll {} [o.received]).1 none (recordAll {} [o.received]).2
    rawNotes := [o.output.content] }

/-- What the task has gathered in the end. -/
def progress : Progress :=
  Progress.take { messages := opening o.tools o.group o.subject ++ [o.completion.message] }
    o.call (.ok o.output)

/-- The model is asked once. -/
theorem held_think :
    Held (o.model.think (opening o.tools o.group o.subject) (some o.tools.definitions))
      (o.trace.take 2) (.ok o.completion) :=
  held_think_of_ok _ (Nat.le_refl _) o.completion

/-- The tool is called once. -/
theorem held_call :
    Held (o.tools.execute o.call.name o.call.arguments) (o.trace.drop 2) (.ok o.output) := by
  have hfind : o.tools.find? o.tool.name = some o.tool := by
    simp [Toolbox.find?, tools]
  rw [Toolbox.execute, call, hfind]
  exact held_bind_iff.2 ⟨_, [], ⟨0, .ok o.output⟩, rfl, held_ask_done_iff.2 rfl, .done _⟩

/-- Its output is taken in. -/
theorem held_calls :
    Held (runCalls o.tools
      { messages := opening o.tools o.group o.subject ++ [o.completion.message] } [o.call])
      (o.trace.drop 2) o.progress := by
  rw [runCalls, held_bind_iff]
  exact ⟨_, [], .ok o.output, (List.append_nil _).symm, o.held_call, held_pure_iff.2 ⟨rfl, rfl⟩⟩

/-- The task is held in these exchanges. -/
theorem held : Held (execute o.model o.tools 1 o.group o.subject) o.trace o.result := by
  rw [execute, held_bind_iff]
  refine ⟨o.trace, [], .ok (o.progress, none), rfl, ?_, held_pure_iff.2 ⟨rfl, rfl⟩⟩
  have hturn : max 1 1 = 0 + 1 := rfl
  rw [hturn, converse, held_bind_iff]
  exact ⟨_, _, _, rfl, o.held_think,
    held_bind_iff.2 ⟨_, [], o.progress, (List.append_nil _).symm, o.held_calls,
      held_pure_iff.2 ⟨rfl, rfl⟩⟩⟩

/-- The task is completed. -/
theorem completed : o.result.isFailure = false := isFailureNote_assemble ..

/-- It has received its output. -/
theorem received_trace : Task.received o.tools o.trace = [o.received] := by
  have hsplit : o.trace = o.trace.take 2 ++ o.trace.drop 2 := rfl
  have hthink : Task.received o.tools (o.trace.take 2) = [] :=
    received_of_asks (ModelSettings.asks_think admitsModel_noCall ..) o.held_think
  rw [hsplit, received_append, hthink, received_execute o.held_call]
  rfl

/-- The model has not come to a remark. -/
theorem remark_trace : remark o.trace = none := rfl

end OneCall

end CitedReport.Task
