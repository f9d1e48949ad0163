/-
Records, pages and outcomes as JSON values.
-/
import TenantGate.Execution.Service

namespace TenantGate

def Directory.Agent.toJson (a : Directory.Agent) : Json :=
  .object [("id", a.id.text), ("tenant_id", a.tenant.text), ("name", a.name),
    ("role", a.role), ("tools", .strings a.tools)]

namespace Execution

def Record.toJson (r : Record) : Json :=
  .object [("id", r.stamp.id), ("tenant_id", r.tenant.text), ("agent_id", r.agent.text),
    ("agent_name", r.agentName), ("prompt", r.prompt), ("model", r.model),
    ("response", r.response), ("created_at", r.stamp.time)]

def Page.toJson (p : Page) : Json :=
  .object [("items", .array (p.items.map Record.toJson)), ("total", .nat p.total),
    ("limit", .nat p.limit), ("offset", .nat p.offset), ("has_more", p.hasMore)]

/-- The members of an outcome; the hint of an agent without tools is one
of its own, which is left out otherwise. -/
def Outcome.members (o : Outcome) : List (String × Json) :=
  let first : List (String × Json) :=
    [("execution_id", o.record.stamp.id), ("agent_id", o.record.agent.text),
      ("agent_name", o.record.agentName), ("model", o.record.model),
      ("prompt", o.record.prompt), ("response", o.record.response),
      ("tools_available", .strings o.tools)]
  let hint : List (String × Json) := if o.warned then [("warning", noTools)] else []
  first ++ hint ++ [("executed_at", .string o.record.stamp.time)]

def Outcome.toJson (o : Outcome) : Json := .object o.members

end Execution

end TenantGate
