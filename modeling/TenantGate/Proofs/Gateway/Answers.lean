/-
All that a request does at a gateway over windows in memory.

# Three kinds

A request gets an answer that the windows have no part in, or it is a
count, or it is an order (`Comes`). Which of them it is does not depend on
what the gateway holds, and neither does the tenant. So a property of all
requests has three cases, and two gateways can be compared request by
request without a walk through the routes.

# What a count finds

`Site.room` is the number of requests that a tenant has room for, as a
count would find it. An order that comes to the limiter spends one of them
or finds none; `Charged` has its three ends, each with the room before and
after it.
-/
import TenantGate.Proofs.Gateway.Noninterference
import TenantGate.Proofs.Limit.Peek

namespace TenantGate

open Directory (Agents)
open Execution (Order Outcome Record Setup Stamp recorded)
open Http (Response)
open Limit (Memory Quota)
open Window (Spends Verdict)

namespace Gateway

-- =========================================================== the headers

/-- The headers that tell of a quota. -/
def quotaHeaders : List String :=
  ["x-ratelimit-limit", "x-ratelimit-remaining", "x-ratelimit-window"]

theorem isSome_header?_iff {name : String} {r : Response} :
    (r.header? name).isSome = true ↔ name ∈ r.headers.map Prod.fst := by
  unfold Response.header?
  rw [Option.isSome_map, List.find?_isSome, List.mem_map]
  refine exists_congr fun h => and_congr_right fun _ => ?_
  exact decide_eq_true_iff

/-- A response with none of the headers that tell of a quota. -/
structure Plain (r : Response) : Prop where
  status : r.status ≠ 429
  headers : ∀ name ∈ "retry-after" :: quotaHeaders, name ∉ r.headers.map Prod.fst

namespace Plain

variable {r : Response}

/-- The header of a content is no such header. -/
theorem of_names (status : r.status ≠ 429)
    (names : r.headers.map Prod.fst = ["content-type"]) : Plain r := by
  refine ⟨status, ?_⟩
  rw [names]
  decide

theorem headOnly (h : Plain r) : Plain r.headOnly := ⟨h.status, h.headers⟩

theorem ofFault {e : Fault} (ne : e.status ≠ 429) : Plain (.ofFault e) := by
  refine of_names ne ?_
  cases e with
  | rateLimitExceeded wait limit seconds => exact absurd rfl ne
  | _ => rfl

end Plain

/-- What of a response is sent back. -/
def sent (r : Http.Request) (response : Response) : Response :=
  if r.method = "HEAD" then response.headOnly else response

theorem sent_of_method {r : Http.Request} {method : String} (h : r.method = method)
    (full : method ≠ "HEAD") (response : Response) : sent r response = response :=
  if_neg (h ▸ full)

theorem status_sent (r : Http.Request) (response : Response) :
    (sent r response).status = response.status := by
  unfold sent
  split
  next => rfl
  next => rfl

theorem Plain.sent {response : Response} (h : Plain response) (r : Http.Request) :
    Plain (sent r response) := by
  unfold Gateway.sent
  split
  next => exact h.headOnly
  next => exact h

-- ========================================================== the refusals

theorem status_of_authenticate {g : Gateway Memory} {r : Http.Request} {e : Fault}
    (unknown : g.authenticate r = .error e) : e.status = 401 := by
  unfold authenticate Directory.Keys.resolve at unknown
  split at unknown
  next =>
    split at unknown
    next => cases unknown
    next =>
      cases unknown
      rfl
  next =>
    cases unknown
    rfl

theorem status_of_check {q : Execution.Request} {s : Execution.Settings} {e : Fault}
    (broken : q.check s = .error e) : e.status = 400 := by
  unfold Execution.Request.check at broken
  split at broken
  next =>
    cases broken
    rfl
  next =>
    split at broken
    next =>
      cases broken
      rfl
    next =>
      split at broken
      next =>
        cases broken
        rfl
      next =>
        split at broken
        next => cases broken
        next =>
          split at broken
          next => cases broken
          next =>
            cases broken
            rfl

/-- A history that is refused is refused for the query. -/
theorem plain_history (tenant : Uuid) (query : List Char) (site : Site) (x : Holdings) :
    Plain ((site.gateway x).history tenant query) := by
  unfold Gateway.history Gateway.page
  cases Http.Paging.ofQuery query with
  | error e => exact .ofFault (show 400 ≠ 429 by decide)
  | ok paging =>
      dsimp only
      split
      next p paged => exact .of_names (show 200 ≠ 429 by decide) rfl
      next e paged =>
        split at paged
        next =>
          cases paged
          exact .ofFault (show 400 ≠ 429 by decide)
        next => cases paged

-- ============================================================== the room

/-- How many more requests there is room for. -/
def Site.room (tenant : Uuid) (m : Memory) (site : Site) : Nat :=
  ((m.log (.ofTenant tenant)).remaining m.now site.quota.limit site.quota.seconds).1

section

variable {tenant : Uuid} {site : Site} {x : Holdings} {r : Http.Request}

theorem spends_room (tenant : Uuid) (m : Memory) (site : Site) :
    let charged := m.check (.ofTenant tenant) site.quota.limit site.quota.seconds
    Spends (site.room tenant m) charged.1 (site.room tenant charged.2) := by
  intro charged
  unfold Site.room
  rw [Memory.log_check, if_pos rfl]
  exact Window.Log.spends_check site.quota.seconds_pos _

/-- What is held after a count for a tenant. -/
def Site.counted (tenant : Uuid) (x : Holdings) (site : Site) : Holdings :=
  ⟨(x.windows.peek (.ofTenant tenant) site.quota.limit site.quota.seconds).2, x.records⟩

theorem room_counted (tenant : Uuid) (x : Holdings) (site : Site) :
    site.room tenant (site.counted tenant x).windows = site.room tenant x.windows := by
  unfold Site.room Site.counted
  rw [Memory.log_peek, Memory.now_peek, if_pos rfl, Window.Log.remaining_prune]

/-- What a tenant is told of its quota when it may make so many requests. -/
def quotaTold (quota : Quota) (remaining : Nat) : Response :=
  .json 200 [] (.object [("limit", .nat quota.limit), ("remaining", .nat remaining),
    ("window_seconds", .nat quota.seconds)])

/-- The answer to an order, and the gateway after it. -/
def Site.ordered (o : Order) (x : Holdings) (site : Site) : Response × Gateway Memory :=
  (outcome site.quota (site.setup.result o x.windows),
    site.gateway ⟨site.setup.remains o x.windows,
      x.records ++ recorded (site.setup.result o x.windows)⟩)

-- ============================================================ the routes

theorem handle_of_no_route {σ : Type} (off : Route.ofPath? r.path = none) (stamp : Stamp)
    (g : Gateway σ) : g.handle stamp r = (.empty 404 [], g) := by
  unfold Gateway.handle
  rw [off]

theorem handle_of_method {σ : Type} {route : Route} (found : Route.ofPath? r.path = some route)
    (other : ¬ route.answers r.method = true) (stamp : Stamp) (g : Gateway σ) :
    g.handle stamp r = (.empty 405 [("allow", route.allowed)], g) := by
  unfold Gateway.handle
  rw [found]
  exact if_neg other

theorem handle_of_route {σ : Type} {route : Route} (found : Route.ofPath? r.path = some route)
    (answers : route.answers r.method = true) (stamp : Stamp) (g : Gateway σ) :
    g.handle stamp r = (sent r (g.answer stamp route r).1, (g.answer stamp route r).2) := by
  unfold Gateway.handle
  rw [found]
  exact if_pos answers

/-- What is asked with a key is answered for its tenant. -/
theorem handle_of_own {σ : Type} {route : Route} (found : Route.ofPath? r.path = some route)
    (answers : route.answers r.method = true) (guarded : route ≠ .health) {g : Gateway σ}
    (own : g.authenticate r = .ok tenant) (stamp : Stamp) :
    g.handle stamp r = (sent r (g.answerTenant stamp route tenant r).1,
      (g.answerTenant stamp route tenant r).2) := by
  rw [handle_of_route found answers]
  unfold Gateway.answer
  rw [if_neg guarded, own]

/-- A request for the quota is a count. -/
theorem handle_of_rateLimit (found : Route.ofPath? r.path = some .rateLimit)
    (answers : Route.answers r.method .rateLimit = true)
    (own : (site.gateway x).authenticate r = .ok tenant) (stamp : Stamp) :
    (site.gateway x).handle stamp r
      = (sent r (quotaTold site.quota (site.room tenant x.windows)),
        site.gateway (site.counted tenant x)) := by
  have asked : (site.gateway x).answerTenant stamp .rateLimit tenant r
      = (site.gateway x).rateLimit tenant := rfl
  rw [handle_of_own found answers nofun own, asked, rateLimit_gateway, Memory.peek_eq]
  rfl

/-- A run whose path and body can be read is an order. -/
theorem handle_of_task {segment text : String} {agent : Uuid} {q : Execution.Request}
    (found : Route.ofPath? r.path = some (.run segment)) (posted : r.method = "POST")
    (own : (site.gateway x).authenticate r = .ok tenant)
    (decoded : Text.Percent.decodeText? segment = some text)
    (read : task text r = .ok (agent, q)) (stamp : Stamp) :
    (site.gateway x).handle stamp r = site.ordered ⟨stamp, tenant, agent, q⟩ x := by
  have served : (site.setup.service x.windows x.records).serve ⟨stamp, tenant, agent, q⟩ = _ :=
    Setup.serve_service ..
  have asked : (site.gateway x).answerTenant stamp (.run segment) tenant r
      = (site.gateway x).run stamp tenant segment r := rfl
  rw [handle_of_own found (decide_eq_true posted) nofun own, asked,
    sent_of_method posted (by decide), run_of_task decoded read, served]
  rfl

-- ============================================================= the orders

/-- What a charged order comes to, between the room before and after it. -/
inductive Charged (quota : Quota) : Nat → Except Fault Outcome → Nat → Prop
  | denied {wait : Nat} (named : 1 ≤ wait) :
      Charged quota 0 (.error (.rateLimitExceeded wait quota.limit quota.seconds)) 0
  | unowned (agent : Uuid) (room : Nat) :
      Charged quota (room + 1) (.error (Agents.missing agent)) room
  | executed (o : Outcome) : Charged quota (o.remaining + 1) (.ok o) o.remaining

theorem Charged.of_spends {o : Order} {before after : Nat} {v : Verdict}
    (spends : Spends before v after) (named : ∀ wait, v = .denied wait → 1 ≤ wait) :
    Charged site.quota before (site.setup.fate o (.ok v)) after := by
  cases spends with
  | denied wait => exact .denied (named wait rfl)
  | admitted room =>
      have agents : site.setup.agents = site.agents := rfl
      unfold Setup.fate
      dsimp only
      rw [agents]
      by_cases owned : ∃ a, site.agents.table.get? o.agent = some a ∧ a.tenant = o.tenant
      · obtain ⟨a, owned⟩ := owned
        rw [Agents.find_eq_ok_iff.2 owned]
        exact .executed (o.outcome a _)
      · rw [Agents.find_of_unowned fun a found own => owned ⟨a, found, own⟩]
        exact .unowned o.agent _

theorem charged_of_valid {o : Order} (valid : o.request.check site.settings = .ok ())
    (m : Memory) :
    Charged site.quota (site.room o.tenant m) (site.setup.result o m)
      (site.room o.tenant (site.setup.remains o m)) := by
  have settings : site.setup.settings = site.settings := rfl
  unfold Setup.result Setup.remains
  rw [settings, valid]
  exact .of_spends (spends_room o.tenant m site) fun _ => Window.Log.one_le_of_denied

-- ======================================================= the three kinds

/-- All that a request comes to at a gateway, whatever that one holds: an
answer that the windows have no part in, a count, or an order. -/
inductive Comes (site : Site) (r : Http.Request) : Prop
  | aside (reply : List Record → Response) (plain : ∀ records, Plain (reply records))
      (off : ∀ segment, Route.ofPath? r.path = some (.run segment) →
        ∀ records, (reply records).status ≠ 200)
      (comes : ∀ stamp x, (site.gateway x).handle stamp r = (reply x.records, site.gateway x))
  | count (tenant : Uuid) (reply : Nat → Response) (plain : ∀ n, Plain (reply n))
      (off : ∀ segment, Route.ofPath? r.path ≠ some (.run segment))
      (comes : ∀ stamp x, (site.gateway x).handle stamp r
        = (reply (site.room tenant x.windows), site.gateway (site.counted tenant x)))
  | order (tenant agent : Uuid) (q : Execution.Request) (segment : String)
      (posted : r.method = "POST") (route : Route.ofPath? r.path = some (.run segment))
      (own : ∀ x, (site.gateway x).authenticate r = .ok tenant)
      (comes : ∀ stamp x,
        (site.gateway x).handle stamp r = site.ordered ⟨stamp, tenant, agent, q⟩ x)

section

variable {route : Route} (found : Route.ofPath? r.path = some route)

include found

theorem not_run (off : ∀ segment, route ≠ .run segment) (segment : String) :
    Route.ofPath? r.path ≠ some (.run segment) := by
  rw [found]
  exact fun same => off segment (Option.some.inj same)

/-- A method that the route does not answer. -/
theorem comes_of_method (answers : ¬ route.answers r.method = true) : Comes site r := by
  have plain : Plain (.empty 405 [("allow", route.allowed)]) := by
    refine ⟨show 405 ≠ 429 by decide, ?_⟩
    show ∀ name ∈ "retry-after" :: quotaHeaders, name ∉ ["allow"]
    decide
  exact .aside (fun _ => _) (fun _ => plain) (fun _ _ _ => show 405 ≠ 200 by decide)
    fun stamp x => handle_of_method found answers stamp (site.gateway x)

variable (answers : route.answers r.method = true)

include answers

theorem comes_of_health (health : route = .health) : Comes site r := by
  have off := not_run found (health ▸ nofun)
  refine .aside (fun _ => sent r (site.gateway ⟨.start 0, []⟩).health)
    (fun _ => (Plain.of_names (show 200 ≠ 429 by decide) rfl).sent r)
    (fun segment run => absurd run (off segment)) fun stamp x => ?_
  rw [handle_of_route found answers]
  unfold Gateway.answer
  rw [if_pos health]
  rfl

/-- Who is not known is refused. -/
theorem comes_of_unknown {e : Fault} (guarded : route ≠ .health)
    (unknown : ∀ x, (site.gateway x).authenticate r = .error e) : Comes site r := by
  have status := status_of_authenticate (unknown ⟨.start 0, []⟩)
  have plain : Plain (.ofFault e) := .ofFault (by rw [status]; decide)
  refine .aside (fun _ => sent r (.ofFault e)) (fun _ => plain.sent r) ?_ ?_
  · intro segment _ records
    rw [status_sent]
    exact status_ofFault_ne e
  · intro stamp x
    rw [handle_of_route found answers]
    unfold Gateway.answer
    rw [if_neg guarded, unknown]

theorem comes_of_rateLimit (own : ∀ x, (site.gateway x).authenticate r = .ok tenant)
    (asked : route = .rateLimit) : Comes site r := by
  subst asked
  exact .count tenant (fun n => sent r (quotaTold site.quota n))
    (fun n => (Plain.of_names (show 200 ≠ 429 by decide) rfl).sent r) (not_run found nofun)
    fun stamp x => handle_of_rateLimit found answers (own x) stamp

theorem comes_of_history (own : ∀ x, (site.gateway x).authenticate r = .ok tenant)
    (asked : route = .history) : Comes site r := by
  have off := not_run found (asked ▸ nofun)
  refine .aside
    (fun records => sent r ((site.gateway ⟨.start 0, records⟩).history tenant r.query))
    (fun records => (plain_history ..).sent r) (fun segment run => absurd run (off segment))
    fun stamp x => ?_
  rw [handle_of_own found answers (asked ▸ nofun) (own x), asked]
  rfl

theorem comes_of_run (own : ∀ x, (site.gateway x).authenticate r = .ok tenant)
    {segment : String} (asked : route = .run segment) : Comes site r := by
  subst asked
  have posted : r.method = "POST" := of_decide_eq_true answers
  rcases run_cases segment r site with
    ⟨refusal, status, names, refused⟩ | ⟨text, agent, q, decoded, read⟩
  · refine .aside (fun _ => refusal) (fun _ => .of_names (by rw [status]; decide) names) ?_ ?_
    · intro segment _ records
      rw [status]
      decide
    · intro stamp x
      rw [handle_of_own found answers nofun (own x), sent_of_method posted (by decide)]
      exact refused stamp tenant x
  · exact .order tenant agent q segment posted found own fun stamp x =>
      handle_of_task found posted (own x) decoded read stamp

end

/-- Every request comes to one of the three. -/
theorem comes (site : Site) (r : Http.Request) : Comes site r := by
  cases found : Route.ofPath? r.path with
  | none =>
      have off : ∀ segment, Route.ofPath? r.path ≠ some (.run segment) := by
        rw [found]
        exact nofun
      exact .aside (fun _ => .empty 404 []) (fun _ => ⟨by decide, fun _ _ => nofun⟩)
        (fun segment run => absurd run (off segment))
        fun stamp x => handle_of_no_route found stamp (site.gateway x)
  | some route =>
      by_cases answers : route.answers r.method = true
      case neg => exact comes_of_method found answers
      by_cases health : route = .health
      case pos => exact comes_of_health found answers health
      cases known : (site.gateway ⟨.start 0, []⟩).authenticate r with
      | error e => exact comes_of_unknown found answers health fun _ => known
      | ok tenant =>
          have own : ∀ x, (site.gateway x).authenticate r = .ok tenant := fun _ => known
          cases route with
          | health => exact absurd rfl health
          | rateLimit => exact comes_of_rateLimit found answers own rfl
          | history => exact comes_of_history found answers own rfl
          | run segment => exact comes_of_run found answers own rfl

/-- What a request leaves is a gateway of the same site. -/
theorem exists_handle (stamp : Stamp) (r : Http.Request) (site : Site) (x : Holdings) :
    ∃ y, ((site.gateway x).handle stamp r).2 = site.gateway y := by
  cases comes site r with
  | aside reply plain off comes => exact ⟨x, congrArg Prod.snd (comes stamp x)⟩
  | count tenant reply plain off comes => exact ⟨_, congrArg Prod.snd (comes stamp x)⟩
  | order tenant agent q segment posted route own comes =>
      exact ⟨_, congrArg Prod.snd (comes stamp x)⟩

/-- No request moves the clock. -/
theorem now_handle (stamp : Stamp) (r : Http.Request) (site : Site) (x : Holdings) :
    ((site.gateway x).handle stamp r).2.service.limiter.store.now = x.windows.now := by
  cases comes site r with
  | aside reply plain off comes => rw [comes]; rfl
  | count tenant reply plain off comes =>
      rw [comes]
      exact Memory.now_peek ..
  | order tenant agent q segment posted route own comes =>
      rw [comes]
      show (site.setup.remains _ _).now = _
      unfold Setup.remains
      split
      next => rfl
      next => rfl

end

end Gateway

end TenantGate
