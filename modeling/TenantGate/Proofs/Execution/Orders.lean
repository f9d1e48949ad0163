/-
What becomes of a tenant's order.

An order passes gates: its request is checked, the tenant is charged,
the agent is looked up. Then the outcome is recorded. `Setup` is what no
order changes, and so a service is a setup with the two things that
orders do change: the place of the windows and the records.

A request that breaks a rule is the end of its order. Any other order
comes to its `fate`, which the answer of the limiter and the directory of
agents decide. `serve_service` says all that an order does: its result,
and what that leaves. Nothing else opens an execution again.
-/
import TenantGate.Execution.Service

namespace TenantGate.Execution

open Directory (Agent Agents)
open Limit (Backend Error Quota)
open Window (Verdict)

variable {σ : Type}

/-- A tenant's order of a run; the stamp is for the record, if one is
made. -/
structure Order where
  stamp : Stamp
  tenant : Uuid
  agent : Uuid
  request : Request

namespace Order

/-- What is recorded when an agent has carried the order out. -/
def record (a : Agent) (o : Order) : Record where
  tenant := o.tenant
  agent := a.id
  agentName := a.name
  prompt := o.request.prompt
  model := o.request.model
  response := Provider.answer a o.request
  stamp := o.stamp

def outcome (a : Agent) (remaining : Nat) (o : Order) : Outcome :=
  { record := o.record a, tools := a.tools, warned := a.tools.isEmpty, remaining }

end Order

/-- What is recorded of a result. -/
def recorded : Except Fault Outcome → List Record
  | .ok o => [o.record]
  | .error _ => []

/-- A tenant's records, oldest first. -/
def owned (tenant : Uuid) (records : List Record) : List Record :=
  records.filter (·.tenant = tenant)

theorem owned_append (tenant : Uuid) (records more : List Record) :
    owned tenant (records ++ more) = owned tenant records ++ owned tenant more :=
  List.filter_append ..

theorem ofTenant_eq_reverse_owned (tenant : Uuid) (records : List Record)
    (fault : Option Fault) :
    History.ofTenant tenant ⟨records, fault⟩ = (owned tenant records).reverse :=
  List.filter_reverse ..

def Service.serve (o : Order) (s : Service σ) : Except Fault Outcome × Service σ :=
  s.execute o.stamp o.tenant o.agent o.request

/-- What no order changes. The answers are made up, and the records are
in order. -/
structure Setup (σ : Type) where
  backend : Backend σ
  quota : Quota
  agents : Agents
  settings : Settings

namespace Setup

def service (store : σ) (records : List Record) (d : Setup σ) : Service σ where
  limiter := ⟨d.backend, d.quota, store⟩
  agents := d.agents
  history := ⟨records, none⟩
  provider := .simulated
  settings := d.settings

/-- The answer of the limiter to an order, and what it leaves. -/
def charge (o : Order) (store : σ) (d : Setup σ) : Except Error Verdict × σ :=
  d.backend.check (.ofTenant o.tenant) d.quota.limit d.quota.seconds store

/-- What an order comes to when the limiter has answered. -/
def fate (d : Setup σ) (o : Order) : Except Error Verdict → Except Fault Outcome
  | .error e => .error (.ofLimit e)
  | .ok (.denied wait) => .error (.rateLimitExceeded wait d.quota.limit d.quota.seconds)
  | .ok (.admitted left) =>
      match d.agents.find o.tenant o.agent with
      | .error e => .error e
      | .ok a => .ok (o.outcome a left)

/-- What an order comes to. -/
def result (o : Order) (store : σ) (d : Setup σ) : Except Fault Outcome :=
  match o.request.check d.settings with
  | .error e => .error e
  | .ok () => d.fate o (d.charge o store).1

/-- What an order leaves of the windows. -/
def remains (o : Order) (store : σ) (d : Setup σ) : σ :=
  match o.request.check d.settings with
  | .error _ => store
  | .ok () => (d.charge o store).2

variable {d : Setup σ} {o : Order}

theorem perform_service (store : σ) (records : List Record) (left : Nat) :
    (d.service store records).perform o.stamp o.tenant o.agent o.request left
      = (d.fate o (.ok (.admitted left)),
        d.service store (records ++ recorded (d.fate o (.ok (.admitted left))))) := by
  unfold Service.perform fate service
  dsimp only
  cases d.agents.find o.tenant o.agent with
  | error e => rw [recorded, List.append_nil]
  | ok a => rfl

theorem serve_service (o : Order) (store : σ) (records : List Record) :
    (d.service store records).serve o
      = (d.result o store,
        d.service (d.remains o store) (records ++ recorded (d.result o store))) := by
  -- an order without an outcome leaves the records as they were
  have unrecorded : ∀ store', d.service store' records = d.service store' (records ++ []) := by
    intro store'
    rw [List.append_nil]
  have settings : (d.service store records).settings = d.settings := rfl
  have consumed : (d.service store records).limiter.consume o.tenant
      = ((d.charge o store).1, ⟨d.backend, d.quota, (d.charge o store).2⟩) := rfl
  unfold Service.serve Service.execute result remains
  rw [settings, consumed]
  cases o.request.check d.settings with
  | error e => exact congrArg (Prod.mk _) (unrecorded store)
  | ok u =>
      rcases d.charge o store with ⟨e | left | wait, store'⟩
      · exact congrArg (Prod.mk _) (unrecorded store')
      · exact perform_service store' records left
      · exact congrArg (Prod.mk _) (unrecorded store')

/-- An order is carried out exactly if its request keeps the rules, the
tenant is admitted, and the agent is the tenant's. -/
theorem result_ok_iff {store : σ} {out : Outcome} :
    d.result o store = .ok out ↔
      o.request.check d.settings = .ok ()
        ∧ ∃ left a, (d.charge o store).1 = .ok (.admitted left)
          ∧ d.agents.find o.tenant o.agent = .ok a ∧ out = o.outcome a left := by
  unfold result
  cases o.request.check d.settings with
  | error e => exact ⟨nofun, nofun⟩
  | ok u =>
      rw [and_iff_right rfl]
      dsimp only
      rcases (d.charge o store).1 with e | left | wait
      · exact ⟨nofun, nofun⟩
      · unfold fate
        dsimp only
        cases d.agents.find o.tenant o.agent with
        | error e => exact ⟨nofun, nofun⟩
        | ok a =>
            constructor
            · intro h
              cases h
              exact ⟨left, a, rfl, rfl, rfl⟩
            · rintro ⟨left', a', admitted, found, rfl⟩
              cases admitted
              cases found
              rfl
      · exact ⟨nofun, nofun⟩

/-- What is recorded of an order is its tenant's. -/
theorem owned_recorded (tenant : Uuid) (o : Order) (store : σ) :
    owned tenant (recorded (d.result o store))
      = if o.tenant = tenant then recorded (d.result o store) else [] := by
  by_cases own : o.tenant = tenant
  · rw [if_pos own]
    cases result : d.result o store with
    | error e => rfl
    | ok out =>
        obtain ⟨-, left, a, -, -, rfl⟩ := result_ok_iff.1 result
        exact List.filter_cons_of_pos (decide_eq_true own)
  · rw [if_neg own]
    cases result : d.result o store with
    | error e => rfl
    | ok out =>
        obtain ⟨-, left, a, -, -, rfl⟩ := result_ok_iff.1 result
        exact List.filter_cons_of_neg fun theirs => own (of_decide_eq_true theirs)

end Setup

end TenantGate.Execution
