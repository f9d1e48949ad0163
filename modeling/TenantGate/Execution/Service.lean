/-
The execution of agents for tenants.

A request is checked first, and one that breaks a rule costs nothing.
Then the tenant is charged, and only then is the agent looked up, so a
request for an agent that is not there does cost something. The answer
is recorded before it is given.
-/
import TenantGate.Execution.Completion
import TenantGate.Execution.History
import TenantGate.Limit.Limiter

namespace TenantGate.Execution

open Directory (Agents)
open Limit (Limiter)

/-- What was executed, as the tenant is told. -/
structure Outcome where
  record : Record
  tools : List String
  /-- Is the agent without tools? -/
  warned : Bool
  /-- How many requests the tenant may still make. -/
  remaining : Nat
deriving DecidableEq, Inhabited

/-- The hint to the owner of an agent without tools. -/
def Outcome.noTools : String :=
  "This agent has no tools configured. Consider adding tools for enhanced capabilities."

/-- All that executions need: the limiter, the agents, the records, the
provider and the rules. -/
structure Service (σ : Type) where
  limiter : Limiter σ
  agents : Agents
  history : History
  provider : Provider
  settings : Settings

namespace Service

variable {σ : Type}

/-- What follows an admission that left room for `remaining` requests:
look up the agent, let it answer, record the answer. -/
def perform (stamp : Stamp) (tenant agent : Uuid) (request : Request) (remaining : Nat)
    (s : Service σ) : Except Fault Outcome × Service σ :=
  match s.agents.find tenant agent with
  | .error e => (.error e, s)
  | .ok a =>
    match s.provider.generate a request with
    | .error e => (.error e, s)
    | .ok response =>
      let draft : Draft :=
        { tenant, agent := a.id, agentName := a.name, prompt := request.prompt
          model := request.model, response }
      match s.history.append stamp draft with
      | (.error e, history) => (.error e, { s with history })
      | (.ok record, history) =>
        (.ok { record, tools := a.tools, warned := a.tools.isEmpty, remaining },
          { s with history })

/-- Executes an agent for a tenant. -/
def execute (stamp : Stamp) (tenant agent : Uuid) (request : Request) (s : Service σ) :
    Except Fault Outcome × Service σ :=
  match request.check s.settings with
  | .error e => (.error e, s)
  | .ok () =>
    match s.limiter.consume tenant with
    | (.error e, limiter) => (.error (.ofLimit e), { s with limiter })
    | (.ok (.denied retryAfter), limiter) =>
      (.error (.rateLimitExceeded retryAfter limiter.quota.limit limiter.quota.seconds),
        { s with limiter })
    | (.ok (.admitted remaining), limiter) =>
      { s with limiter }.perform stamp tenant agent request remaining

/-- A page of a tenant's records. -/
def page (tenant : Uuid) (limit offset : Nat) (s : Service σ) : Except Fault Page :=
  s.history.list tenant limit offset

/-- How many requests a tenant may still make, zero if nobody can tell. -/
def remaining (tenant : Uuid) (s : Service σ) : Nat × Service σ :=
  let (n, limiter) := s.limiter.remainingOrZero tenant
  (n, { s with limiter })

end Service

end TenantGate.Execution
