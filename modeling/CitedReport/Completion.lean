import CitedReport.Dialogue.Basic

/-!
# Asking a model

One conversation is put to the model, again after a pause when the failure may pass, and what a
success costs is put on the bill. A conversation that is too long for the model is not put to it at
all.
-/

namespace CitedReport

/-- How models are asked. -/
structure ModelSettings where
  /-- How often a passing failure is tried again. -/
  maxRetries : Nat := 2
  /-- The temperature of requests: three tenths. -/
  temperature : Single := Binary.ofRatio false 3 10
  /-- The most tokens an answer may have. -/
  maxTokens : Option Nat := none
  /-- How many tokens a conversation may have. -/
  contextWindow : Nat := 128000

namespace ModelSettings

/-- A rough count of the tokens of a conversation: one for four bytes, and four for each message. -/
def estimateTokens (messages : List Message) : Nat :=
  messages.foldr (fun m n => m.content.byteLength / 4 + 4 + n) 0

/-- The request for a conversation. -/
def request (s : ModelSettings) (messages : List Message) (tools : Option (List ToolDefinition)) :
    CompletionRequest :=
  { messages, tools, temperature := s.temperature, maxTokens := s.maxTokens, model := none }

/-- The pause in seconds after the failure of an attempt, counted from zero: it doubles up to 32,
and is not shorter than what the service asks for. The doubling is a shift in a word, which begins
anew after 64 attempts. -/
def backoffSecs (attempt : Nat) (error : ModelError) : Nat :=
  let usual := min ((1 : UInt64) <<< (attempt : UInt64)).toNat 32
  match error with
  | .rateLimited secs => max secs usual
  | _ => usual

/-- Sends a request; after a passing failure again, as often as there are tries left. -/
def attempt (request : CompletionRequest) : Nat → Nat → Dialogue (Except ModelError Completion)
  | i, tries => do
    match ← Dialogue.complete request with
    | .ok c =>
      Dialogue.charge c.usage
      return .ok c
    | .error e =>
      match tries with
      | 0 => return .error e
      | tries + 1 =>
        if e.isTransient then
          Dialogue.pause (1000 * backoffSecs i e)
          attempt request (i + 1) tries
        else return .error e

/-- Puts a conversation to the model, with or without tools on offer. -/
def think (s : ModelSettings) (messages : List Message) (tools : Option (List ToolDefinition)) :
    Dialogue (Except ModelError Completion) :=
  let used := estimateTokens messages
  if s.contextWindow < used then return .error (.contextOverflow used s.contextWindow)
  else attempt (s.request messages tools) 0 s.maxRetries

/-- Asks for a text; a blank one counts as a failure. -/
def completeText (s : ModelSettings) (system user : String) :
    Dialogue (Except ModelError String) := do
  match ← s.think [.system system, .user user] none with
  | .error e => return .error e
  | .ok c =>
    let text := c.message.content.joinedText
    if Text.isBlank text then return .error .emptyCompletion else return .ok text

end ModelSettings

end CitedReport
