/-
What a tenant sees of a gateway, and what it does not.

# The view

All tenants share one table of windows, one directory of agents and one
list of records. A tenant's view of it is the clock, the log of its own
key and its own records (`Alike`). The identifiers and times of records
come from outside and are of no consequence, so two gateways are alike
for a tenant also if the stamps in one are renamed to those in the other.

# Two lemmas

A request of the tenant itself is answered alike by gateways that are
alike, and leaves them alike (`Alike.handle`). A request of anybody else
leaves the gateway as it was in the tenant's view (`Hidden.handle`). Both
go down to the windows, where a step shows on the log of its own key
alone, and to the records, where a new one is its tenant's.
-/
import TenantGate.Proofs.Execution.Orders
import TenantGate.Proofs.Limit.Deployment
import TenantGate.Proofs.Limit.Logs
import TenantGate.Startup

namespace TenantGate

open Directory (Agents Keys)
open Execution (Order Outcome Page Record Setup Stamp recorded)
open Http (Response)
open Limit (Key Memory Quota)

-- ========================================================== the windows

namespace Limit.Memory

/-- Do two memories show the same of a key? -/
structure Alike (key : Key) (m m' : Memory) : Prop where
  now : m.now = m'.now
  log : m.log key = m'.log key

namespace Alike

variable {key other : Key} {m m' m'' : Memory}

theorem refl (key : Key) (m : Memory) : Alike key m m := ⟨rfl, rfl⟩

theorem trans (h : Alike key m m') (h' : Alike key m' m'') : Alike key m m'' :=
  ⟨h.now.trans h'.now, h.log.trans h'.log⟩

theorem check (h : Alike key m m') (limit seconds : Nat) :
    (m.check key limit seconds).1 = (m'.check key limit seconds).1
      ∧ Alike key (m.check key limit seconds).2 (m'.check key limit seconds).2 := by
  refine ⟨?_, h.now, ?_⟩
  · show ((m.log key).check m.now limit seconds).1 = ((m'.log key).check m'.now limit seconds).1
    rw [h.log, h.now]
  · rw [log_check, log_check, if_pos rfl, if_pos rfl, h.log, h.now]

theorem peek (h : Alike key m m') (limit seconds : Nat) :
    (m.peek key limit seconds).1 = (m'.peek key limit seconds).1
      ∧ Alike key (m.peek key limit seconds).2 (m'.peek key limit seconds).2 := by
  refine ⟨?_, ?_, ?_⟩
  · rw [peek_eq, peek_eq, h.log, h.now]
  · rw [now_peek, now_peek, h.now]
  · rw [log_peek, log_peek, if_pos rfl, if_pos rfl, h.log, h.now]

theorem advance (h : Alike key m m') (ms : Nat) : Alike key (m.advance ms) (m'.advance ms) := by
  refine ⟨?_, h.log⟩
  show (m.now + ms) % _ = (m'.now + ms) % _
  rw [h.now]

theorem purge (h : Alike key m m') (seconds : Nat) :
    Alike key (m.purge seconds).2 (m'.purge seconds).2 := by
  refine ⟨h.now, ?_⟩
  rw [log_purge, log_purge, h.log, h.now]

theorem check_other (foreign : key ≠ other) (limit seconds : Nat) (m : Memory) :
    Alike key (m.check other limit seconds).2 m :=
  ⟨rfl, (log_check _ _ _ _ _).trans (if_neg foreign)⟩

theorem peek_other (foreign : key ≠ other) (limit seconds : Nat) (m : Memory) :
    Alike key (m.peek other limit seconds).2 m :=
  ⟨now_peek _ _ _ _, (log_peek _ _ _ _ _).trans (if_neg foreign)⟩

end Alike

end Limit.Memory

-- ============================================================ renaming

namespace Execution

def Record.rename (ρ : Stamp → Stamp) (r : Record) : Record := { r with stamp := ρ r.stamp }

def Outcome.rename (ρ : Stamp → Stamp) (o : Outcome) : Outcome :=
  { o with record := o.record.rename ρ }

def Page.rename (ρ : Stamp → Stamp) (p : Page) : Page :=
  { p with items := p.items.map (·.rename ρ) }

def Order.rename (ρ : Stamp → Stamp) (o : Order) : Order := { o with stamp := ρ o.stamp }

theorem owned_rename (ρ : Stamp → Stamp) (tenant : Uuid) (records : List Record) :
    owned tenant (records.map (·.rename ρ)) = (owned tenant records).map (·.rename ρ) :=
  List.filter_map

/-- Pages of the same records are the same, but for the stamps. -/
theorem page_rename {ρ : Stamp → Stamp} {tenant : Uuid} {records records' : List Record}
    (same : (owned tenant records).map (·.rename ρ) = owned tenant records')
    (limit offset : Nat) :
    History.page tenant limit offset ⟨records', none⟩
      = (History.page tenant limit offset ⟨records, none⟩).rename ρ := by
  unfold History.page Page.rename
  rw [ofTenant_eq_reverse_owned, ofTenant_eq_reverse_owned, ← same, ← List.map_reverse]
  dsimp only
  rw [← List.map_drop, ← List.map_take, List.length_map, List.length_map]

/-- The order of the same tenant, under another stamp, comes to the same. -/
theorem Setup.fate_rename {σ : Type} (ρ : Stamp → Stamp) (d : Setup σ) (o : Order)
    (r : Except Limit.Error Window.Verdict) :
    d.fate (o.rename ρ) r = (d.fate o r).map (·.rename ρ) := by
  rcases r with e | left | wait
  · rfl
  · unfold fate
    dsimp only [Order.rename]
    cases d.agents.find o.tenant o.agent with
    | error e => rfl
    | ok a => rfl
  · rfl

theorem recorded_map_rename (ρ : Stamp → Stamp) (r : Except Fault Outcome) :
    recorded (r.map (·.rename ρ)) = (recorded r).map (·.rename ρ) := by
  cases r with
  | error e => rfl
  | ok o => rfl

end Execution

-- ============================================================ the view

namespace Gateway

/-- What requests change in a gateway over windows in memory. -/
structure Holdings where
  windows : Memory
  records : List Record

/-- What they do not change. -/
structure Site where
  quota : Quota
  agents : Agents
  settings : Execution.Settings
  keys : Keys
  name : String

namespace Site

def setup (site : Site) : Setup Memory :=
  ⟨Memory.backend, site.quota, site.agents, site.settings⟩

def gateway (x : Holdings) (site : Site) : Gateway Memory :=
  ⟨site.setup.service x.windows x.records, site.keys, site.name⟩

end Site

/-- Does a tenant see the same in both, but for the stamps? -/
structure Alike (ρ : Stamp → Stamp) (tenant : Uuid) (x x' : Holdings) : Prop where
  windows : Memory.Alike (.ofTenant tenant) x.windows x'.windows
  records : (Execution.owned tenant x.records).map (·.rename ρ)
    = Execution.owned tenant x'.records

/-- Does a tenant see nothing of the step from one to the other? -/
structure Unseen (tenant : Uuid) (x y : Holdings) : Prop where
  windows : Memory.Alike (.ofTenant tenant) y.windows x.windows
  records : Execution.owned tenant y.records = Execution.owned tenant x.records

theorem Unseen.refl (tenant : Uuid) (x : Holdings) : Unseen tenant x x := ⟨.refl _ _, rfl⟩

theorem Alike.of_unseen {ρ : Stamp → Stamp} {tenant : Uuid} {x x' y : Holdings}
    (h : Alike ρ tenant x x') (unseen : Unseen tenant x y) : Alike ρ tenant y x' := by
  refine ⟨unseen.windows.trans h.windows, ?_⟩
  rw [unseen.records]
  exact h.records

/-- Responses that show the same, but for the stamps of what was
executed. -/
inductive Renamed (ρ : Stamp → Stamp) : Response → Response → Prop
  | refused {r : Response} (h : r.status ≠ 200) : Renamed ρ r r
  | bodiless (r : Response) : Renamed ρ r.headOnly r.headOnly
  | health (g : Gateway Memory) : Renamed ρ g.health g.health
  | quota (tenant : Uuid) (g : Gateway Memory) :
      Renamed ρ (g.rateLimit tenant).1 (g.rateLimit tenant).1
  | executed (q : Quota) (o : Outcome) :
      Renamed ρ (outcome q (.ok o)) (outcome q (.ok (o.rename ρ)))
  | page (p : Page) :
      Renamed ρ (.json 200 [] p.toJson) (.json 200 [] (p.rename ρ).toJson)

theorem status_ofFault_ne (e : Fault) : (Response.ofFault e).status ≠ 200 := by
  show e.status ≠ 200
  cases e with
  | _ => exact nofun

theorem Renamed.fault (ρ : Stamp → Stamp) (e : Fault) :
    Renamed ρ (.ofFault e) (.ofFault e) :=
  .refused (status_ofFault_ne e)

/-- Without a body there is no difference. -/
theorem Renamed.headOnly {ρ : Stamp → Stamp} {r r' : Response} (h : Renamed ρ r r') :
    Renamed ρ r.headOnly r'.headOnly := by
  cases h with
  | _ => exact .bodiless _

section

variable {ρ : Stamp → Stamp} {tenant : Uuid} {site : Site} {x x' : Holdings}

-- ================================================== the tenant's own

theorem charge_setup (o : Order) (m : Memory) :
    site.setup.charge o m
      = (.ok (m.check (.ofTenant o.tenant) site.quota.limit site.quota.seconds).1,
        (m.check (.ofTenant o.tenant) site.quota.limit site.quota.seconds).2) := rfl

/-- An order of the tenant comes to the same but for its stamp, and the
windows go on showing the same. -/
theorem Alike.result (site : Site) (h : Alike ρ tenant x x') {o : Order}
    (own : o.tenant = tenant) :
    site.setup.result (o.rename ρ) x'.windows
        = (site.setup.result o x.windows).map (·.rename ρ)
      ∧ Memory.Alike (.ofTenant tenant) (site.setup.remains o x.windows)
        (site.setup.remains (o.rename ρ) x'.windows) := by
  have request : (o.rename ρ).request = o.request := rfl
  unfold Setup.result Setup.remains
  rw [request]
  cases o.request.check site.setup.settings with
  | error e => exact ⟨rfl, h.windows⟩
  | ok u =>
      have charged : site.setup.charge (o.rename ρ) x'.windows
        = site.setup.charge o x'.windows := rfl
      obtain ⟨verdict, left⟩ := h.windows.check site.quota.limit site.quota.seconds
      rw [← own] at verdict left ⊢
      dsimp only
      rw [charged, charge_setup, charge_setup, Setup.fate_rename, verdict]
      exact ⟨rfl, left⟩

theorem Alike.serve (site : Site) (h : Alike ρ tenant x x') {o : Order}
    (own : o.tenant = tenant) :
    ∃ result y y',
      (site.setup.service x.windows x.records).serve o
          = (result, site.setup.service y.windows y.records)
        ∧ (site.setup.service x'.windows x'.records).serve (o.rename ρ)
          = (result.map (·.rename ρ), site.setup.service y'.windows y'.records)
        ∧ Alike ρ tenant y y' := by
  obtain ⟨result, remains⟩ := h.result site own
  refine ⟨site.setup.result o x.windows,
    ⟨site.setup.remains o x.windows, x.records ++ recorded (site.setup.result o x.windows)⟩,
    ⟨site.setup.remains (o.rename ρ) x'.windows, x'.records
      ++ recorded ((site.setup.result o x.windows).map (·.rename ρ))⟩,
    Setup.serve_service o x.windows x.records, ?_, remains, ?_⟩
  · rw [Setup.serve_service, result]
  · rw [Execution.owned_append, Execution.owned_append, List.map_append, h.records,
      Execution.recorded_map_rename, Execution.owned_rename]

/-- An order of somebody else. -/
theorem Unseen.serve (site : Site) {o : Order} (foreign : o.tenant ≠ tenant) (x : Holdings) :
    ∃ result y,
      (site.setup.service x.windows x.records).serve o
          = (result, site.setup.service y.windows y.records)
        ∧ Unseen tenant x y := by
  have keys : Key.ofTenant tenant ≠ Key.ofTenant o.tenant :=
    fun k => foreign (Limit.Key.ofTenant_injective k).symm
  refine ⟨site.setup.result o x.windows,
    ⟨site.setup.remains o x.windows, x.records ++ recorded (site.setup.result o x.windows)⟩,
    Setup.serve_service o x.windows x.records, ?_, ?_⟩
  · unfold Setup.remains
    cases o.request.check site.setup.settings with
    | error e => exact .refl _ _
    | ok u => exact .check_other keys _ _ _
  · rw [Execution.owned_append, Setup.owned_recorded, if_neg foreign, List.append_nil]

-- ========================================================= the routes

/-- Are two answers the same to a tenant, and then the gateways alike? -/
def Matches (ρ : Stamp → Stamp) (tenant : Uuid) (site : Site)
    (a a' : Response × Gateway Memory) : Prop :=
  Renamed ρ a.1 a'.1
    ∧ ∃ y y', a.2 = site.gateway y ∧ a'.2 = site.gateway y' ∧ Alike ρ tenant y y'

/-- Is the gateway after an answer the same to a tenant? -/
def Hidden (tenant : Uuid) (site : Site) (x : Holdings) (a : Response × Gateway Memory) : Prop :=
  ∃ y, a.2 = site.gateway y ∧ Unseen tenant x y

theorem Alike.unmoved (h : Alike ρ tenant x x') {r r' : Response} (told : Renamed ρ r r') :
    Matches ρ tenant site (r, site.gateway x) (r', site.gateway x') :=
  ⟨told, x, x', rfl, rfl, h⟩

theorem Hidden.unmoved (tenant : Uuid) (site : Site) (x : Holdings) (r : Response) :
    Hidden tenant site x (r, site.gateway x) :=
  ⟨x, rfl, .refl tenant x⟩

theorem rateLimit_gateway (tenant : Uuid) (site : Site) (x : Holdings) :
    let asked := x.windows.peek (.ofTenant tenant) site.quota.limit site.quota.seconds
    (site.gateway x).rateLimit tenant
      = (.json 200 [] (.object [("limit", .nat site.quota.limit), ("remaining", .nat asked.1),
          ("window_seconds", .nat site.quota.seconds)]),
        site.gateway ⟨asked.2, x.records⟩) := rfl

theorem Alike.rateLimit (h : Alike ρ tenant x x') :
    Matches ρ tenant site ((site.gateway x).rateLimit tenant)
      ((site.gateway x').rateLimit tenant) := by
  obtain ⟨count, left⟩ := h.windows.peek site.quota.limit site.quota.seconds
  have told : ((site.gateway x').rateLimit tenant).1 = ((site.gateway x).rateLimit tenant).1 := by
    rw [rateLimit_gateway, rateLimit_gateway, count]
  refine ⟨?_, ⟨_, x.records⟩, ⟨_, x'.records⟩, congrArg Prod.snd (rateLimit_gateway tenant site x),
    congrArg Prod.snd (rateLimit_gateway tenant site x'), left, h.records⟩
  rw [told]
  exact .quota tenant (site.gateway x)

theorem Alike.history (h : Alike ρ tenant x x') (query : List Char) :
    Renamed ρ ((site.gateway x).history tenant query)
      ((site.gateway x').history tenant query) := by
  unfold Gateway.history Gateway.page
  cases Http.Paging.ofQuery query with
  | error e => exact .fault ρ _
  | ok paging =>
      have settings : ∀ y, (site.gateway y).service.settings = site.settings := fun _ => rfl
      dsimp only
      rw [settings, settings]
      by_cases bad : paging.limit.getD site.settings.defaultPageLimit = 0
        ∨ site.settings.maxPageLimit < paging.limit.getD site.settings.defaultPageLimit
      · rw [if_pos bad, if_pos bad]
        exact .fault ρ _
      · rw [if_neg bad, if_neg bad]
        have paged : ∀ y limit offset, (site.gateway y).service.page tenant limit offset
            = .ok (Execution.History.page tenant limit offset ⟨y.records, none⟩) :=
          fun _ _ _ => rfl
        rw [paged, paged, Execution.page_rename h.records]
        exact .page _

theorem status_of_task {text : String} {r : Http.Request} {e : Fault}
    (bad : task text r = .error e) : e.status = 400 := by
  unfold task at bad
  split at bad
  next =>
    cases bad
    rfl
  next =>
    split at bad
    next =>
      cases bad
      rfl
    next => cases bad

/-- A run whose path and body can be read is an order. -/
theorem run_of_task {segment text : String} {agent : Uuid} {request : Execution.Request}
    {r : Http.Request} (decoded : Text.Percent.decodeText? segment = some text)
    (read : task text r = .ok (agent, request)) (stamp : Stamp) (tenant : Uuid) (site : Site)
    (x : Holdings) :
    let served := (site.setup.service x.windows x.records).serve ⟨stamp, tenant, agent, request⟩
    (site.gateway x).run stamp tenant segment r
      = (outcome served.2.limiter.quota served.1, ⟨served.2, site.keys, site.name⟩) := by
  unfold Gateway.run
  rw [decoded]
  dsimp only
  rw [read]
  rfl

/-- A run is refused before anything happens, or it can be read. -/
theorem run_cases (segment : String) (r : Http.Request) (site : Site) :
    (∃ refusal : Response, refusal.status = 400
        ∧ refusal.headers.map Prod.fst = ["content-type"]
        ∧ ∀ stamp tenant x,
          (site.gateway x).run stamp tenant segment r = (refusal, site.gateway x))
      ∨ ∃ text agent request, Text.Percent.decodeText? segment = some text
        ∧ task text r = .ok (agent, request) := by
  cases decoded : Text.Percent.decodeText? segment with
  | none =>
      refine .inl ⟨.text 400 "Invalid URL: Invalid UTF-8 in `agent_id`", rfl, rfl,
        fun stamp tenant x => ?_⟩
      unfold Gateway.run
      rw [decoded]
  | some text =>
      cases read : task text r with
      | error e =>
          have bad := status_of_task read
          refine .inl ⟨.ofFault e, bad, ?_, fun stamp tenant x => ?_⟩
          · cases e with
            | rateLimitExceeded wait limit seconds => cases bad
            | _ => rfl
          · unfold Gateway.run
            rw [decoded]
            dsimp only
            rw [read]
      | ok asked => exact .inr ⟨text, asked.1, asked.2, rfl, read⟩

theorem Alike.run (h : Alike ρ tenant x x') (stamp : Stamp) (segment : String)
    (r : Http.Request) :
    Matches ρ tenant site ((site.gateway x).run stamp tenant segment r)
      ((site.gateway x').run (ρ stamp) tenant segment r) := by
  rcases run_cases segment r site with
    ⟨refusal, status, -, refused⟩ | ⟨text, agent, request, decoded, read⟩
  · rw [refused, refused]
    exact h.unmoved (.refused (by rw [status]; decide))
  · obtain ⟨result, y, y', served, served', alike⟩ :=
      h.serve site (o := ⟨stamp, tenant, agent, request⟩) rfl
    have renamed : (⟨ρ stamp, tenant, agent, request⟩ : Order)
      = Order.rename ρ ⟨stamp, tenant, agent, request⟩ := rfl
    rw [run_of_task decoded read, run_of_task decoded read, renamed, served, served']
    refine ⟨?_, y, y', rfl, rfl, alike⟩
    cases result with
    | error e => exact .fault ρ e
    | ok o => exact .executed site.quota o

theorem Hidden.run {other : Uuid} (foreign : other ≠ tenant) (stamp : Stamp)
    (segment : String) (r : Http.Request) (x : Holdings) :
    Hidden tenant site x ((site.gateway x).run stamp other segment r) := by
  rcases run_cases segment r site with
    ⟨refusal, -, -, refused⟩ | ⟨text, agent, request, decoded, read⟩
  · rw [refused]
    exact .unmoved tenant site x refusal
  · obtain ⟨result, y, served, unseen⟩ :=
      Unseen.serve site (o := ⟨stamp, other, agent, request⟩) foreign x
    rw [run_of_task decoded read, served]
    exact ⟨y, rfl, unseen⟩

-- ========================================================== the requests

theorem Alike.answerTenant (h : Alike ρ tenant x x') (stamp : Stamp) (route : Route)
    (r : Http.Request) :
    Matches ρ tenant site ((site.gateway x).answerTenant stamp route tenant r)
      ((site.gateway x').answerTenant (ρ stamp) route tenant r) := by
  cases route with
  | health => exact h.unmoved (.health (site.gateway x))
  | rateLimit => exact h.rateLimit
  | history => exact h.unmoved (h.history r.query)
  | run segment => exact h.run stamp segment r

theorem Hidden.answerTenant {other : Uuid} (foreign : other ≠ tenant) (stamp : Stamp)
    (route : Route) (r : Http.Request) (x : Holdings) :
    Hidden tenant site x ((site.gateway x).answerTenant stamp route other r) := by
  cases route with
  | health => exact .unmoved tenant site x _
  | rateLimit =>
      have keys : Key.ofTenant tenant ≠ Key.ofTenant other :=
        fun k => foreign (Limit.Key.ofTenant_injective k).symm
      exact ⟨_, congrArg Prod.snd (rateLimit_gateway other site x), .peek_other keys _ _ _, rfl⟩
  | history => exact .unmoved tenant site x _
  | run segment => exact .run foreign stamp segment r x

theorem authenticate_gateway (site : Site) (x x' : Holdings) (r : Http.Request) :
    (site.gateway x).authenticate r = (site.gateway x').authenticate r := rfl

theorem Alike.answer (h : Alike ρ tenant x x') {r : Http.Request}
    (own : (site.gateway x).authenticate r = .ok tenant) (stamp : Stamp) (route : Route) :
    Matches ρ tenant site ((site.gateway x).answer stamp route r)
      ((site.gateway x').answer (ρ stamp) route r) := by
  have own' := (authenticate_gateway site x' x r).trans own
  unfold Gateway.answer
  by_cases health : route = .health
  · rw [if_pos health, if_pos health]
    exact h.unmoved (.health (site.gateway x))
  · rw [if_neg health, if_neg health, own, own']
    exact h.answerTenant stamp route r

theorem Hidden.answer {r : Http.Request} {x : Holdings}
    (foreign : (site.gateway x).authenticate r ≠ .ok tenant) (stamp : Stamp)
    (route : Route) : Hidden tenant site x ((site.gateway x).answer stamp route r) := by
  unfold Gateway.answer
  by_cases health : route = .health
  · rw [if_pos health]
    exact .unmoved tenant site x _
  · rw [if_neg health]
    cases known : (site.gateway x).authenticate r with
    | error e => exact .unmoved tenant site x _
    | ok other =>
        have others : other ≠ tenant := fun e => by
          rw [known, e] at foreign
          exact foreign rfl
        exact .answerTenant others stamp route r x

/-- A request of the tenant itself. -/
theorem Alike.handle (h : Alike ρ tenant x x') {r : Http.Request}
    (own : (site.gateway x).authenticate r = .ok tenant) (stamp : Stamp) :
    Matches ρ tenant site ((site.gateway x).handle stamp r)
      ((site.gateway x').handle (ρ stamp) r) := by
  unfold Gateway.handle
  cases Route.ofPath? r.path with
  | none => exact h.unmoved (.refused (show 404 ≠ 200 by decide))
  | some route =>
      dsimp only
      by_cases answers : route.answers r.method = true
      · rw [if_pos answers, if_pos answers]
        obtain ⟨told, left⟩ := h.answer own stamp route
        refine ⟨?_, left⟩
        by_cases head : r.method = "HEAD"
        · rw [if_pos head, if_pos head]
          exact told.headOnly
        · rw [if_neg head, if_neg head]
          exact told
      · rw [if_neg answers, if_neg answers]
        exact h.unmoved (.refused (show 405 ≠ 200 by decide))

/-- A request of anybody else, or of nobody. -/
theorem Hidden.handle {r : Http.Request} {x : Holdings}
    (foreign : (site.gateway x).authenticate r ≠ .ok tenant) (stamp : Stamp) :
    Hidden tenant site x ((site.gateway x).handle stamp r) := by
  unfold Gateway.handle
  cases Route.ofPath? r.path with
  | none => exact .unmoved tenant site x _
  | some route =>
      dsimp only
      by_cases answers : route.answers r.method = true
      · rw [if_pos answers]
        exact Hidden.answer foreign stamp route
      · rw [if_neg answers]
        exact .unmoved tenant site x _

end

end Gateway

end TenantGate
