/-
What a tenant is shown that asks for no page.

# Which settings are accepted

`Settings.check` looks at three settings, and with them a limiter can be
made. It does not look at the page size that stands in where a request names
none, and that one is held against the greatest page size as if the request
had named it. So a gateway of accepted settings may refuse every look at a
history that asks for no page: `Shows` says when it does not.

# Every state

Requests change the windows and the records, and nothing else
(`exists_handle_holding`). The answer is the same in every state, up to the
records (`first_page`).
-/
import TenantGate.Proofs.Gateway.Answers

namespace TenantGate

open Execution (Order Record Setup Stamp recorded)
open Http (Response)
open Limit (Backend Limiter)

/-- Is the page size that stands in one that a request may name? -/
def Execution.Settings.Shows (settings : Execution.Settings) : Prop :=
  0 < settings.defaultPageLimit ∧ settings.defaultPageLimit ≤ settings.maxPageLimit

namespace Gateway

variable {σ : Type}

-- ============================================================ every state

/-- What no request changes at a gateway of the settings. -/
def setup (l : Limiter σ) (s : Settings) : Setup σ :=
  ⟨l.backend, l.quota, .ofList s.agents, s.execution⟩

/-- The gateway of the settings with these windows and records. -/
def holding (l : Limiter σ) (s : Settings) (store : σ) (records : List Record) : Gateway σ :=
  { ofSettings l s with service := (setup l s).service store records }

/-- The gateways that a run can lead to. Between the requests the windows
may change in any way. -/
inductive Reachable (start : Gateway σ) : Gateway σ → Prop
  | start : Reachable start start
  | request {g : Gateway σ} (reached : Reachable start g) (stamp : Stamp) (r : Http.Request) :
      Reachable start (g.handle stamp r).2
  | windows {g : Gateway σ} (reached : Reachable start g) (store : σ) :
      Reachable start { g with service.limiter.store := store }

section

variable {l : Limiter σ} {s : Settings} {store : σ} {records : List Record}
  {tenant : Uuid} {stamp : Stamp} {r : Http.Request}

theorem exists_run_holding (segment : String) :
    ∃ store' records', ((holding l s store records).run stamp tenant segment r).2
      = holding l s store' records' := by
  unfold Gateway.run
  cases Text.Percent.decodeText? segment with
  | none => exact ⟨store, records, rfl⟩
  | some text =>
      dsimp only
      cases task text r with
      | error e => exact ⟨store, records, rfl⟩
      | ok asked =>
          -- an order changes the windows and the records, and nothing else
          let o : Order := ⟨stamp, tenant, asked.1, asked.2⟩
          exact ⟨(setup l s).remains o store, records ++ recorded ((setup l s).result o store),
            congrArg (fun served => Gateway.mk served.2 (holding l s store records).keys _)
              (Setup.serve_service o store records)⟩

theorem exists_handle_holding (l : Limiter σ) (s : Settings) (store : σ) (records : List Record)
    (stamp : Stamp) (r : Http.Request) :
    ∃ store' records', ((holding l s store records).handle stamp r).2
      = holding l s store' records' := by
  cases found : Route.ofPath? r.path with
  | none =>
      rw [handle_of_no_route found]
      exact ⟨store, records, rfl⟩
  | some route =>
      by_cases answers : route.answers r.method = true
      case neg =>
        rw [handle_of_method found answers]
        exact ⟨store, records, rfl⟩
      rw [handle_of_route found answers]
      unfold Gateway.answer
      by_cases health : route = .health
      case pos =>
        rw [if_pos health]
        exact ⟨store, records, rfl⟩
      rw [if_neg health]
      cases (holding l s store records).authenticate r with
      | error e => exact ⟨store, records, rfl⟩
      | ok tenant =>
          cases route with
          | health => exact absurd rfl health
          | rateLimit => exact ⟨_, records, rfl⟩
          | history => exact ⟨store, records, rfl⟩
          | run segment => exact exists_run_holding segment

theorem Reachable.exists_holding {g : Gateway σ} (h : (ofSettings l s).Reachable g) :
    ∃ store records, g = holding l s store records := by
  induction h with
  | start => exact ⟨l.store, [], rfl⟩
  | request reached stamp r ih =>
      obtain ⟨store, records, rfl⟩ := ih
      exact exists_handle_holding l s store records stamp r
  | windows reached store ih =>
      obtain ⟨_, records, rfl⟩ := ih
      exact ⟨store, records, rfl⟩

-- ============================================================= the answer

/-- A look at the history with a tenant's key and without a query. -/
structure Looks (tenant : Uuid) (g : Gateway σ) (r : Http.Request) : Prop where
  method : r.method = "GET"
  path : r.path = "/api/v1/history".toList
  query : Http.Paging.fields r.query = []
  own : g.authenticate r = .ok tenant

/-- What is answered to it, and what is left of the gateway. -/
structure FirstPage (settings : Execution.Settings) (tenant : Uuid) (g : Gateway σ)
    (answered : Response × Gateway σ) : Prop where
  status : answered.1.status = 200 ↔ settings.Shows
  shown : settings.Shows → answered.1
    = .json 200 [] (g.service.history.page tenant settings.defaultPageLimit 0).toJson
  refused : ¬ settings.Shows → answered.1
    = .ofFault (badLimit settings.defaultPageLimit settings.maxPageLimit)
  unmoved : answered.2 = g

theorem handle_of_looks {g : Gateway σ} (looks : g.Looks tenant r) (stamp : Stamp) :
    g.handle stamp r = (g.history tenant r.query, g) := by
  have found : Route.ofPath? r.path = some .history := by
    rw [looks.path]
    rfl
  have answers : Route.answers r.method .history = true := by
    rw [looks.method]
    rfl
  rw [handle_of_own found answers nofun looks.own, sent_of_method looks.method (by decide)]
  rfl

theorem Looks.history_holding (looks : (holding l s store records).Looks tenant r) :
    (holding l s store records).history tenant r.query
      = if s.execution.defaultPageLimit = 0
          ∨ s.execution.maxPageLimit < s.execution.defaultPageLimit then
        .ofFault (badLimit s.execution.defaultPageLimit s.execution.maxPageLimit)
      else .json 200 [] ((holding l s store records).service.history.page tenant
        s.execution.defaultPageLimit 0).toJson := by
  have unasked : Http.Paging.ofQuery r.query = .ok ⟨none, 0⟩ := by
    unfold Http.Paging.ofQuery
    rw [looks.query]
    rfl
  have settings : (holding l s store records).service.settings = s.execution := rfl
  unfold Gateway.history Gateway.page
  rw [unasked, settings]
  dsimp only [Option.getD_none]
  by_cases bad : s.execution.defaultPageLimit = 0
    ∨ s.execution.maxPageLimit < s.execution.defaultPageLimit
  · rw [if_pos bad, if_pos bad]
  · rw [if_neg bad, if_neg bad]
    rfl

theorem firstPage_holding (looks : (holding l s store records).Looks tenant r) (stamp : Stamp) :
    FirstPage s.execution tenant (holding l s store records)
      ((holding l s store records).handle stamp r) := by
  rw [handle_of_looks looks, looks.history_holding]
  by_cases shows : s.execution.Shows
  · rw [if_neg (by unfold Execution.Settings.Shows at shows; omega)]
    exact ⟨iff_of_true rfl shows, fun _ => rfl, fun refused => absurd shows refused, rfl⟩
  · rw [if_pos (by unfold Execution.Settings.Shows at shows; omega)]
    exact ⟨iff_of_false (status_ofFault_ne _) shows, fun h => absurd h shows, fun _ => rfl, rfl⟩

end

-- ============================================================ the theorem

/-- Under accepted settings, over any backend, the gateway can be made, and
in every state it can come to, who asks for no page is shown the first one
exactly if the page size that stands in is one that a request may name. -/
theorem first_page {s : Settings} (accepted : s.check = .ok ()) (backend : Backend σ)
    (store : σ) :
    ∃ l, s.rateLimit.limiter backend store = .ok l
      ∧ ∀ g, (ofSettings l s).Reachable g → ∀ stamp tenant r, g.Looks tenant r →
        FirstPage s.execution tenant g (g.handle stamp r) := by
  obtain ⟨l, made⟩ := Startup.limiter_of_check accepted
  refine ⟨l, made, fun g reached stamp tenant r looks => ?_⟩
  obtain ⟨store, records, rfl⟩ := reached.exists_holding
  exact firstPage_holding looks stamp

def look : Http.Request := ⟨"GET", "/api/v1/history", [("x-api-key", "sk-a")], []⟩

/-- One key and no other setting: a second look at the history. -/
theorem first_page_of_default :
    let s : Settings := { Settings.default with apiKeys := [⟨"sk-a", .ofNat 1⟩] }
    s.check = .ok () ∧ ∃ l : Limiter Unit,
      let g := ((ofSettings l s).handle default look).2
      (ofSettings l s).Reachable g ∧ g.Looks (.ofNat 1) look
        ∧ (g.handle default look).1.status = 200 := by
  intro s
  have accepted : s.check = .ok () := rfl
  obtain ⟨l, -, pages⟩ := first_page accepted (Backend.constant (.ok (.admitted 1)) (.ok 1)) ()
  have reached : (ofSettings l s).Reachable ((ofSettings l s).handle default look).2 :=
    .request .start default look
  have looks : ((ofSettings l s).handle default look).2.Looks (.ofNat 1) look :=
    ⟨rfl, rfl, rfl, rfl⟩
  have shows : s.execution.Shows := ⟨by decide, by decide⟩
  exact ⟨accepted, l, reached, looks, (pages _ reached _ _ _ looks).status.2 shows⟩

/-- One key, and pages of 500 where none is asked for, but of 100 at most. -/
def overlong : Settings :=
  { Settings.default with
    execution := { Execution.Settings.default with defaultPageLimit := 500, maxPageLimit := 100 }
    apiKeys := [⟨"sk-a", .ofNat 1⟩] }

/-- These settings are accepted, and their gateway shows nobody a history
who does not name a page size. -/
theorem refused_first_page :
    overlong.check = .ok ()
      ∧ ∃ l, overlong.rateLimit.limiter (Backend.constant (.ok (.admitted 1)) (.ok 1)) () = .ok l
        ∧ (ofSettings l overlong).Looks (.ofNat 1) look
        ∧ ((ofSettings l overlong).handle default look).1 = .ofFault (badLimit 500 100)
        ∧ ((ofSettings l overlong).handle default look).1.status = 400 := by
  have looks : ∀ l : Limiter Unit, (ofSettings l overlong).Looks (.ofNat 1) look :=
    fun l => ⟨rfl, rfl, rfl, rfl⟩
  exact ⟨rfl, ⟨_, ⟨100, 60, by decide, by decide⟩, ()⟩, rfl, looks _, rfl, rfl⟩

end Gateway

end TenantGate
