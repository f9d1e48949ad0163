/-
What an agent answers to a task. The answer is made by a provider,
which may fail; `simulated` is the one that needs nothing but the agent
and the request, and the same agent, prompt and model always get the
same text from it.
-/
import TenantGate.Directory.Agents
import TenantGate.Execution.Request
import TenantGate.Uuid.Named

namespace TenantGate.Execution

open Directory (Agent)

/-- Where answers come from. -/
structure Provider where
  generate : Agent → Request → Except Fault String

namespace Provider

/-- A provider that answers nothing but a fault. -/
def failing (e : Fault) : Provider := ⟨fun _ _ => .error e⟩

/-- How many characters of a prompt are quoted. -/
def previewLength : Nat := 100

/-- The start of a prompt, with dots where something is left out. -/
def preview (prompt : String) : String :=
  if previewLength < prompt.length then
    String.ofList (prompt.toList.take previewLength) ++ "..."
  else prompt

/-- Eight digits that depend on the agent, the prompt and the model. -/
def responseId (a : Agent) (r : Request) : String :=
  let id := Uuid.named Uuid.objectNamespace (a.id.text ++ ":" ++ r.prompt ++ ":" ++ r.model)
  String.ofList (id.digits.take 8)

/-- The text of an answer. -/
def answer (a : Agent) (r : Request) : String :=
  let task := "Based on the task '" ++ preview r.prompt ++ "', here is a simulated response"
  let id := "[Response ID: " ++ responseId a r ++ "]"
  "[Mock Response] Agent '" ++ a.name ++ "' (role: " ++ a.role
    ++ ") processed your request "
    ++ if a.tools.isEmpty then "with no tools available. " ++ task ++ ". " ++ id
      else "using tools: [" ++ ", ".intercalate a.tools ++ "]. " ++ task
        ++ " demonstrating the agent's capabilities. " ++ id

/-- The provider that makes up its answers. -/
def simulated : Provider := ⟨fun a r => .ok (answer a r)⟩

end Provider

end TenantGate.Execution
