import CitedReport.Config.Basic
import CitedReport.Config.Environment
import CitedReport.Toml.Parser
import CitedReport.Toml.Printer

/-!
# Layers of configuration

A configuration is put together from layers: the values that are there by default, the user's file,
the workspace's file, the environment, and a configuration given in the program. A later layer hides
what an earlier one says about the same setting. The first setting, in the order of the names, whose
value does not fit is what the user is told about.
-/

namespace CitedReport.Config

/-- Where a configuration comes from besides the values that are there by default. -/
structure Layers where
  /-- The text of the user's file. -/
  user : Option String := none
  /-- The text of the workspace's file. -/
  workspace : Option String := none
  /-- The environment. -/
  environment : Environment := {}
  /-- A configuration that hides all others. -/
  override : Option Config := none

/-- A file's settings as a tree; the path of the mistake is empty when the file cannot be read. -/
def fileTree : Option String → Except (List String) Json
  | none => .ok (.object [])
  | some text =>
    match Toml.parse? text with
    | some tree => .ok tree
    | none => .error []

/-- The configuration of some layers, or the path to the setting that is wrong. -/
def ofLayers (l : Layers) : Except (List String) Config := do
  let user ← fileTree l.user
  let workspace ← fileTree l.workspace
  let trees := [user, workspace, l.environment.settings] ++ (l.override.map Config.toJson).toList
  layout.take .ignored (trees.foldl Tree.overlay (Config.toJson {})).sorted {}

/-- A configuration as the text of a file, in which a number can be too large to be written. -/
def fileText? (c : Config) : Option String :=
  match c.toJson with
  | .object tables => Toml.document? tables
  | _ => none

/-- Where a workspace keeps its file. -/
def filePlace (workspace : String) : String := workspace ++ "/.dossier/config.toml"

/-- What is said when a file would have to be written over. -/
def fileExists (path : String) : ConfigError := .invalid (path ++ " already exists")

end CitedReport.Config
