import CitedReport.Subject

/-!
# Prompts

The instructions and the requests that the stages of a run put to a model.
-/

namespace CitedReport.Prompt

/-- Instructions for deciding whether a query is clear. -/
def clarifySystem : String :=
  "You decide whether a research request can be acted on as written. You never perform the " ++
    "research yourself."

/-- Instructions for writing a brief. -/
def briefSystem : String :=
  "You turn short research requests into precise research briefs for a team of analysts. You " ++
    "write in markdown."

/-- Instructions for reviewing. -/
def evaluatorSystem : String :=
  "You are a strict reviewer. You answer with a single JSON object and nothing else."

/-- Instructions for researching. -/
def researcherSystem : String :=
  "You are a research analyst. You gather evidence with the tools available to you, cite every " ++
    "fact, and stop calling tools once the topic is covered."

/-- Instructions for writing a report. -/
def synthesisSystem : String :=
  "You write long-form research profiles from the findings you are given. You never invent " ++
    "facts and you cite every claim with the numbers provided."

/-- A text between lines of three quotes. -/
def quoteBlock (text : String) : String := "\"\"\"\n" ++ text ++ "\n\"\"\""

/-- Asks whether a query is clear. -/
def clarify (query : String) : String :=
  "Research request:\n" ++ quoteBlock query ++ "\n\n" ++
    "Decide whether the subject of this request is identifiable without further input. " ++
    "Ambiguous names shared by several well-known entities, or requests with no identifiable " ++
    "subject at all, need clarification.\n\n" ++
    "If no clarification is needed, answer exactly:\nneed_clarification: false\n\n" ++
    "Otherwise answer with one short, friendly question for the user that resolves the ambiguity."

/-- Asks for a brief; with feedback, for a better one. -/
def brief (query : String) (subject : SubjectType) (today : String) (feedback : Option String) :
    String :=
  "Today's date is " ++ today ++ ".\n\n" ++
    "Write a research brief for a profile of the following " ++ subject.name ++ ":\n" ++
    quoteBlock query ++ "\n\n" ++
    "Structure the brief as markdown sections. Each `##` section is one independently " ++
    "researchable topic (for example overview, leadership, products, financials, recent news, " ++
    "relationships with us) followed by bullet points listing the concrete questions to answer. " ++
    "Keep it specific to this " ++ subject.name ++ "; do not answer the questions." ++
    match feedback with
    | some f => "\n\nA reviewer rejected the previous brief. Address this feedback:\n" ++ f
    | none => ""

/-- Asks for a verdict on a brief. -/
def briefEvaluation (query : String) (subject : SubjectType) (brief : String) : String :=
  "Request (" ++ subject.name ++ "): " ++ query ++ "\n\nResearch brief:\n" ++
    quoteBlock brief ++ "\n\n" ++
    "Does this brief cover the request with specific, researchable questions grouped into " ++
    "sections? Respond with JSON: " ++
    "\x7b\"passes\": true|false, \"revision_prompt\": \"what to fix\"\x7d"

/-- Asks for a verdict on a report. -/
def reportEvaluation (brief report : String) : String :=
  "Research brief:\n" ++ quoteBlock brief ++ "\n\nReport:\n" ++ quoteBlock report ++ "\n\n" ++
    "Check that the report answers the brief, that claims carry [n] citations, and that it " ++
    "contains no unsupported speculation. Respond with JSON: " ++
    "\x7b\"passes\": true|false, " ++
    "\"revision_prompt\": \"specific instructions for the next draft\"\x7d"

/-- Asks for research on a question group. -/
def researcher (group : String) (subject : SubjectType) (tools : List String) : String :=
  "Research topic for a " ++ subject.name ++ " profile:\n" ++ group ++ "\n\n" ++
    "Available tools: " ++ Text.join ", " tools ++
    ". Use them to collect evidence for every question in the topic. " ++
    "Prefer internal_search for anything about our own relationship with the subject. " ++
    "When you have enough, reply with a short summary instead of another tool call."

/-- Asks for a report; with a previous draft and feedback, for a better one. -/
def synthesis (brief : String) (subject : SubjectType) (focus : Option String)
    (context today directive : String) (revision : Option (String × String)) : String :=
  "Today's date is " ++ today ++ ".\n\n" ++
    "Write a comprehensive " ++ subject.name ++ " profile answering this brief:\n" ++
    quoteBlock brief ++ "\n\n" ++
    (match focus with
      | some f => "Give particular depth to: " ++ f ++ "\n\n"
      | none => "") ++
    context ++
    "\n\nRules:\n" ++
    "- Use markdown with a `#` title and `##` sections, including a Relationships section.\n" ++
    "- Cite every claim inline with the [n] numbers from the consolidated source list.\n" ++
    "- Only use facts present in the findings above.\n" ++
    "- End with a `## Sources` section.\n\n" ++
    directive ++
    match revision with
    | some (previous, feedback) =>
      "\n\nYour previous draft was rejected.\nPrevious draft:\n" ++ quoteBlock previous ++ "\n\n" ++
        "Revise it following these instructions:\n" ++ feedback
    | none => ""

end CitedReport.Prompt
