/-
A tree of values in layers: the document first, then what the
environment says, each laid over what is there.

Names in the tree are in lower case. Where both a layer and what lies
below it have an object the two are merged; any other value takes the
place of what is below. A name at the top may be a path of names with
points between them, and then its value is laid at the end of the path.
-/
import TenantGate.Decimal.Read
import TenantGate.Settings.Reading

namespace TenantGate.Settings.Layers

/-- The members of an object; nothing else has members. -/
def members : Json → List (String × Json)
  | .object ms => ms
  | _ => []

/-- The value under a name. -/
def child? (name : String) (tree : Json) : Option Json := (members tree).lookup name

/-- Puts a value under a name, in place of the value there. -/
def put (name : String) (v : Json) (tree : Json) : Json :=
  let ms := members tree
  if ms.any fun m => m.1 = name then
    .object (ms.map fun m => if m.1 = name then (name, v) else m)
  else .object (ms ++ [(name, v)])

mutual

/-- A value laid over what is below. -/
def overlay : Json → (below : Option Json) → Json
  | .object ms, below => overlayAll ms (below.getD (.object []))
  | v, _ => v

/-- Members laid over a tree, the first one first. -/
def overlayAll : List (String × Json) → (below : Json) → Json
  | [], below => below
  | (name, v) :: ms, below =>
      overlayAll ms (put (lower name) (overlay v (child? (lower name) below)) below)

end

/-- A value laid over what is at the end of a path. -/
def lay (v : Json) : (path : List String) → (below : Option Json) → Json
  | [], below => overlay v below
  | name :: path, below =>
      let tree := below.getD (.object [])
      put (lower name) (lay v path (child? (lower name) tree)) tree

/-- Is a character one of those in the names of a path? -/
def isNameChar (c : Char) : Bool := c.isAlphanum || c = '_' || c = '-' || c = ' '

/-- The path that a name is: the name alone, unless there are names
between points in it. -/
def path (name : String) : List String :=
  let parts := name.splitOn "."
  if parts.all fun p => ¬p.isEmpty ∧ p.toList.all isNameChar then parts else [name]

/-- The members of a layer laid over a tree. -/
def layAll (layer : List (String × Json)) (tree : Json) : Json :=
  layer.foldl (fun tree m => lay m.2 (path m.1) (some tree)) tree

-- ====================================================== the environment

/-- What the names of variables that hold settings start with. -/
def mark : String := "map__"

/-- The setting that a variable holds, if it holds one. -/
def setting? (s : String) : Option String :=
  let name := lower s
  if name.startsWith mark then
    some (".".intercalate ((String.ofList (name.toList.drop mark.length)).splitOn "__"))
  else none

/-- The value in a variable: a truth value, a whole number of 64 bits, a
float, or else a text. -/
def value (s : String) : Json :=
  match lower s with
  | "true" => true
  | "false" => false
  | _ =>
      match Text.Number.readInt64? s, Decimal.read? s.toList with
      | some n, _ => .int n
      | none, some x => .float x
      | none, none => s

/-- The settings in an environment. -/
def ofEnvironment (env : List (String × String)) : List (String × Json) :=
  env.filterMap fun (name, s) => (setting? name).map fun setting => (setting, value s)

/-- The tree of a document and an environment. -/
def tree (document : List (String × Json)) (env : List (String × String)) : Json :=
  layAll (ofEnvironment env) (layAll document (.object []))

end TenantGate.Settings.Layers
