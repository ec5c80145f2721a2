import CitedReport.Dialogue.Basic

/-!
# The toolbox

The tools of a run, in the order of their names. No name is taken twice, and a call of a tool that
takes longer than the tool may take is a failure.
-/

namespace CitedReport

/-- A tool of a run. -/
structure Tool where
  /-- Its name. -/
  name : String
  /-- What it does. -/
  description : String
  /-- The form of its arguments. -/
  parameters : Json.Sorted
  /-- How long a call may take, in milliseconds. -/
  timeoutMs : Nat := 30000

/-- The tool as it is offered to a model. -/
def Tool.definition (t : Tool) : ToolDefinition := ⟨t.name, t.description, t.parameters⟩

/-- The tools of a run. -/
structure Toolbox where
  /-- The tools, in increasing order of their names. -/
  tools : List Tool := []

namespace Toolbox

/-- A tool by its name. -/
def find? (b : Toolbox) (name : String) : Option Tool := b.tools.find? fun t => t.name = name

/-- Puts a tool where its name belongs. -/
def place (tool : Tool) : List Tool → List Tool
  | [] => [tool]
  | t :: rest => if tool.name < t.name then tool :: t :: rest else t :: place tool rest

/-- Adds a tool whose name is not taken. -/
def register (b : Toolbox) (tool : Tool) : Except ToolError Toolbox :=
  match b.find? tool.name with
  | some _ => .error (.alreadyRegistered tool.name)
  | none => .ok ⟨place tool b.tools⟩

/-- A toolbox of all the tools whose names are not taken before. -/
def ofList (tools : List Tool) : Toolbox :=
  tools.foldl (fun b t => match b.register t with | .ok b => b | .error _ => b) {}

/-- The names of the tools. -/
def names (b : Toolbox) : List String := b.tools.map Tool.name

/-- The tools as they are offered to a model. -/
def definitions (b : Toolbox) : List ToolDefinition := b.tools.map Tool.definition

/-- Calls a tool and waits for it, but no longer than it may take. -/
def execute (b : Toolbox) (name : String) (arguments : Json.Sorted) :
    Dialogue (Except ToolError ToolOutput) :=
  match b.find? name with
  | none => return .error (.notFound name)
  | some tool => do
    let answer ← Dialogue.callTool name arguments
    if tool.timeoutMs < answer.delayMs then
      Dialogue.pause tool.timeoutMs
      return .error (.timeout name (tool.timeoutMs / 1000))
    else
      Dialogue.pause answer.delayMs
      return answer.value

end Toolbox

end CitedReport
