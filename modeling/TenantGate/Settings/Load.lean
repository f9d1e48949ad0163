/-
Settings from texts, from files and from the environment, and as text.

The environment is laid over the document before anything is taken for
what it has to be, so a value that the environment replaces cannot be
wrong.
-/
import TenantGate.Settings.Document
import TenantGate.Settings.Layers
import TenantGate.Yaml.Read
import TenantGate.Yaml.Write

namespace TenantGate.Settings

/-- The text cannot be read as members. -/
def noDocument : Fault := .config "the settings are not a YAML mapping"

/-- A value is not what its setting needs. -/
def noSettings : Fault := .config "a setting has no value of its kind"

/-- There is no file at a path. -/
def noFile (path : String) : Fault := .config ("configuration file not found: " ++ path)

/-- The settings in a tree, if they are accepted. -/
def ofTree (tree : Json) : Except Fault Settings :=
  match read? .lenient tree with
  | none => .error noSettings
  | some s => s.check.map fun _ => s

/-- The settings of a text under an environment. -/
def ofText (text : String) (env : List (String × String)) : Except Fault Settings :=
  match Yaml.ofText? text with
  | some (.object ms) => ofTree (Layers.tree ms env)
  | _ => .error noDocument

/-- What was found at the path of a file. -/
inductive File where
  | missing (path : String)
  | unreadable
  | text (s : String)
deriving DecidableEq

/-- The settings of a file, if one was named, under an environment. -/
def load (file : Option File) (env : List (String × String)) : Except Fault Settings :=
  match file with
  | none => ofText "" env
  | some (.missing path) => .error (noFile path)
  | some .unreadable => .error noDocument
  | some (.text s) => ofText s env

/-- The text of settings. -/
def toYaml (s : Settings) : String := Yaml.write s.toJson

end TenantGate.Settings
