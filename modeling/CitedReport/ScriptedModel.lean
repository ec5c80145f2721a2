import CitedReport.Failure
import CitedReport.Message.Basic

/-!
# A scripted model

A model that gives prepared answers, one after the other or always the same one, for trying out a
run without a service.
-/

namespace CitedReport

/-- A model with prepared answers. -/
inductive ScriptedModel where
  /-- One answer after the other, then a placeholder. -/
  | queue (answers : List (Except ModelError Completion))
  /-- The same text every time. -/
  | constant (text : String)

namespace ScriptedModel

/-- The name that the model goes by. -/
def name : String := "mock-model"

/-- How many tokens a conversation with it may have. -/
def contextWindow : Nat := 128000

/-- A completion with some content. -/
def completion (content : Content) (usage : TokenUsage) : Completion :=
  { message := ⟨.assistant, content⟩, usage, model := name, finishReason := some "stop" }

/-- A completion with a text, at a nominal price. -/
def textCompletion (text : String) : Completion :=
  completion (.text text) { input := 100, output := 50 }

/-- What is said when no answer is left. -/
def placeholder : String := "I'm a mock LLM. No queued responses available."

/-- The next answer, and the model after it. -/
def next : ScriptedModel → Except ModelError Completion × ScriptedModel
  | .constant text => (.ok (textCompletion text), .constant text)
  | .queue [] => (.ok (textCompletion placeholder), .queue [])
  | .queue (a :: rest) => (a, .queue rest)

end ScriptedModel

end CitedReport
