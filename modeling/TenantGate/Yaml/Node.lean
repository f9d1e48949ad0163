/-
Nodes of a YAML text: values with what keys and aliases need to know of
them.

Two keys are the same if they are of one kind and equal; floats are
compared by their spelling. Only scalars other than null are keys, and a
mapping that has one key twice is refused. An anchor names a node from
the place where it stands on; an alias inside that node stands for null.
-/
import TenantGate.Yaml.Resolve

namespace TenantGate.Yaml

/-- A value, and the text that it was read from if that was a scalar. -/
structure Node where
  value : Json
  spelling : String
deriving Inhabited

/-- A value that was not read from a scalar. -/
def Node.whole (v : Json) : Node := ⟨v, ""⟩

/-- The key of a member. -/
inductive Key where
  | text (s : String)
  | int (n : Int)
  | bool (b : Bool)
  | float (spelling : String)
deriving DecidableEq

namespace Key

/-- The key that a node is. -/
def ofNode? (n : Node) : Option Key :=
  match n.value with
  | .string s => some (text s)
  | .int i => some (int i)
  | .bool b => some (bool b)
  | .float _ => some (float n.spelling)
  | .null | .array _ | .object _ => none

/-- The name of a member. -/
def name : Key → String
  | text s => s
  | int n => toString n
  | bool b => if b then "true" else "false"
  | float s => s

end Key

/-- The members of a mapping, the last one first. -/
abbrev Members := List (Key × Json)

/-- Members with one more; its key must be new. -/
def Members.add? (k v : Node) (ms : Members) : Option Members := do
  let key ← Key.ofNode? k
  if ms.any fun m => m.1 = key then none else some ((key, v.value) :: ms)

/-- The mapping of members. -/
def Members.node (ms : Members) : Node :=
  .whole (.object (ms.reverse.map fun m => (m.1.name, m.2)))

/-- What names were given to nodes. -/
structure Anchors where
  /-- The number of a name, the latest first. -/
  names : List (String × Nat)
  /-- The nodes that are complete, by number. -/
  nodes : List (Nat × Node)

namespace Anchors

def empty : Anchors := ⟨[], []⟩

/-- Gives a name to the node that comes next; tells its number. -/
def declare (name : String) (a : Anchors) : Nat × Anchors :=
  (a.names.length, { a with names := (name, a.names.length) :: a.names })

/-- Completes the node of a number. -/
def complete (number : Option Nat) (n : Node) (a : Anchors) : Anchors :=
  match number with
  | some i => { a with nodes := (i, n) :: a.nodes }
  | none => a

/-- The node of a name. -/
def resolve? (name : String) (a : Anchors) : Option Node :=
  (a.names.lookup name).map fun i => (a.nodes.lookup i).getD (.whole .null)

end Anchors

/-- What stands in front of a node. -/
structure Properties where
  /-- The number of its anchor. -/
  anchor : Option Nat
  tag : Option String
deriving DecidableEq, Inhabited

namespace Properties

def none : Properties := ⟨Option.none, Option.none⟩

/-- Has the node neither anchor nor tag? -/
def isNone (p : Properties) : Bool := p.anchor.isNone && p.tag.isNone

/-- The properties of two places; only one of them may have an anchor, and
only one a tag. -/
def join? (p q : Properties) : Option Properties :=
  if (p.anchor.isSome ∧ q.anchor.isSome) ∨ (p.tag.isSome ∧ q.tag.isSome) then Option.none
  else some ⟨p.anchor <|> q.anchor, p.tag <|> q.tag⟩

/-- The node of a plain scalar, if that has a value. -/
def plain? (s : String) (p : Properties) : Option Node :=
  (match p.tag with
    | some tag => taggedValue? tag s
    | Option.none => plainValue? s).map fun v => ⟨v, s⟩

end Properties

end TenantGate.Yaml
