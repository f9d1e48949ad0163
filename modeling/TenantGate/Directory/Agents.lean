/-
The agents that tenants own. An agent is stored under its identifier
alone, so a later one of the same identifier takes its place whoever
owns it. A tenant finds its own agents only: the agent of another is
reported exactly like one that does not exist.
-/
import TenantGate.Fault
import TenantGate.Table
import TenantGate.Uuid.Basic

namespace TenantGate.Directory

/-- An agent and the tenant that owns it. -/
structure Agent where
  id : Uuid
  tenant : Uuid
  name : String
  role : String
  tools : List String
deriving DecidableEq, Inhabited

/-- The agents by identifier. -/
structure Agents where
  table : Table Uuid Agent

namespace Agents

def empty : Agents := ⟨∅⟩

instance : Inhabited Agents := ⟨empty⟩

/-- Stores an agent under its identifier. -/
def insert (a : Agent) (d : Agents) : Agents := ⟨d.table.put a.id a⟩

/-- The directory of a list; of two agents with one identifier the later
stays. -/
def ofList (as : List Agent) : Agents := as.foldl (fun d a => d.insert a) empty

def size (d : Agents) : Nat := d.table.size

def isEmpty (d : Agents) : Bool := d.table.isEmpty

/-- There is no such agent for this tenant. -/
def missing (id : Uuid) : Fault :=
  .notFound "AGENT_NOT_FOUND" ("Agent " ++ id.text ++ " not found")

/-- The agent of an identifier, if the tenant owns it. -/
def find (tenant id : Uuid) (d : Agents) : Except Fault Agent :=
  match d.table.get? id with
  | some a => if a.tenant = tenant then .ok a else .error (missing id)
  | none => .error (missing id)

theorem find_eq_ok_iff {agents : Agents} {tenant id : Uuid} {a : Agent} :
    agents.find tenant id = .ok a ↔ agents.table.get? id = some a ∧ a.tenant = tenant := by
  unfold find
  cases agents.table.get? id with
  | none => exact ⟨nofun, nofun⟩
  | some b =>
      dsimp only
      constructor
      · intro h
        split at h
        next owned =>
          cases h
          exact ⟨rfl, owned⟩
        next => cases h
      · rintro ⟨found, owned⟩
        cases found
        rw [if_pos owned]

theorem find_of_unowned {agents : Agents} {tenant id : Uuid}
    (unowned : ∀ a, agents.table.get? id = some a → a.tenant ≠ tenant) :
    agents.find tenant id = .error (missing id) := by
  unfold find
  cases found : agents.table.get? id with
  | none => rfl
  | some a =>
      dsimp only
      rw [if_neg (unowned a found)]

end Agents

end TenantGate.Directory
