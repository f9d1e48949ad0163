/-
What the gateway says of a quota.

# The four places

A tenant reads of its quota in the headers of an executed run, in the
header and in the details of a refusal, and in the answer to a request for
the quota itself. Each of these is made in a place of its own, and none
asks another. They agree (`Annotated`), because a run spends what a count
would have found. Of one answer this is `Told`; its proof has a case for
each kind of request.

# Requests that only read

A count prunes, so even a request for the quota changes the windows. What
it takes away has expired, and nobody misses it: gateways that differ by
records which a count has shed answer every request alike, and go on
differing by no more than that (`Sheds.handle`, `Sheds.trace_eq`).
-/
import TenantGate.Proofs.Gateway.Answers
import TenantGate.Proofs.Limit.Shedding

namespace TenantGate

open Execution (Order Outcome Setup Stamp recorded)
open Http (Response)
open Limit (Memory Quota)
open Window (maxCount span)

namespace Gateway

-- ========================================================= the statement

/-- The details of a refusal. -/
def refusalDetails (quota : Quota) (wait : Nat) : Json :=
  .object [("limit", .nat quota.limit), ("window_seconds", .nat quota.seconds),
    ("retry_after_seconds", .nat wait)]

/-- A request of a tenant for its quota. -/
structure AsksQuota (tenant : Uuid) (g : Gateway Memory) (r : Http.Request) : Prop where
  method : r.method = "GET"
  path : r.path = "/api/v1/rate-limit".toList
  own : g.authenticate r = .ok tenant

/-- A run of a tenant that passes all gates before the limiter. -/
structure ComesToLimiter (tenant : Uuid) (g : Gateway Memory) (r : Http.Request) : Prop where
  method : r.method = "POST"
  own : g.authenticate r = .ok tenant
  task : ∃ segment text agent q, Route.ofPath? r.path = some (.run segment)
    ∧ Text.Percent.decodeText? segment = some text ∧ Gateway.task text r = .ok (agent, q)
    ∧ q.check g.service.settings = .ok ()

/-- The tenant can ask, and if it asks now it is told that it may make so
many requests. -/
structure Shows (quota : Quota) (tenant : Uuid) (remaining : Nat) (g : Gateway Memory) :
    Prop where
  asks : ∃ r, g.AsksQuota tenant r
  told : ∀ stamp r, g.AsksQuota tenant r → (g.handle stamp r).1 = quotaTold quota remaining

/-- What an answer tells of the quota, beside the gateway that it
leaves. -/
structure Told (quota : Quota) (g : Gateway Memory) (r : Http.Request)
    (answered : Response × Gateway Memory) : Prop where
  /-- Executed runs have the headers of the quota, and nothing else has. -/
  headed : ∀ name ∈ quotaHeaders, (answered.1.header? name).isSome = true ↔
    answered.1.status = 200 ∧ ∃ segment, Route.ofPath? r.path = some (.run segment)
  /-- They hold what a request for the quota is told next. -/
  counted : ∀ segment, Route.ofPath? r.path = some (.run segment) → answered.1.status = 200 →
    ∃ tenant remaining, g.authenticate r = .ok tenant
      ∧ answered.1.header? "x-ratelimit-limit" = some (toString quota.limit)
      ∧ answered.1.header? "x-ratelimit-remaining" = some (toString remaining)
      ∧ answered.1.header? "x-ratelimit-window" = some (toString quota.seconds)
      ∧ Shows quota tenant remaining answered.2
  /-- Those who have to wait are told so, and nobody else is. -/
  waits : (answered.1.header? "retry-after").isSome = true ↔ answered.1.status = 429
  /-- They are told how long, twice, and nothing remains for them. -/
  refused : answered.1.status = 429 → ∃ tenant wait message, g.authenticate r = .ok tenant
    ∧ 1 ≤ wait ∧ answered.1.header? "retry-after" = some (toString wait)
    ∧ answered.1.content = .json (.object [("error_code", "RATE_LIMIT_EXCEEDED"),
        ("message", .string message), ("details", refusalDetails quota wait)])
    ∧ Shows quota tenant 0 answered.2

namespace Event

/-- The time that it takes. -/
def elapsed : Event → Nat
  | advance ms => ms
  | _ => 0

end Event

def elapsed : List Event → Nat
  | [] => 0
  | e :: events => e.elapsed + elapsed events

/-- The gateway after a run. -/
def after : List Event → Gateway Memory → Gateway Memory
  | [], g => g
  | e :: events, g => after events (e.take g).2

/-- What a gateway tells of the quota, whatever is asked of it. -/
structure Annotated (quota : Quota) (g : Gateway Memory) : Prop where
  told : ∀ stamp r, Told quota g r (g.handle stamp r)
  /-- What a tenant is told of its quota decides its next run. -/
  foretold : ∀ stamp r tenant, g.AsksQuota tenant r → ∃ remaining,
    (g.handle stamp r).1 = quotaTold quota remaining
      ∧ ∀ stamp' r', (g.handle stamp r).2.ComesToLimiter tenant r' →
        let next := ((g.handle stamp r).2.handle stamp' r').1
        (next.status = 429 ↔ remaining = 0)
          ∧ (next.status = 200 →
            next.header? "x-ratelimit-remaining" = some (toString (remaining - 1)))
  /-- Nothing but a run is noticed later, while the clock does not start
  again. -/
  harmless : ∀ stamp r, r.method ≠ "POST" → ∀ later : List Event,
    g.service.limiter.store.now + elapsed later ≤ maxCount →
      trace later (g.handle stamp r).2 = trace later g

-- ==================================================== what is told of it

section

variable {quota : Quota} {g g' : Gateway Memory} {r : Http.Request}

theorem Told.of_plain {response : Response} (plain : Plain response)
    (off : ∀ segment, Route.ofPath? r.path = some (.run segment) → response.status ≠ 200) :
    Told quota g r (response, g') := by
  constructor
  case headed =>
    intro name mem
    rw [isSome_header?_iff]
    refine ⟨fun there => absurd there (plain.headers name (.tail _ mem)), ?_⟩
    rintro ⟨served, segment, route⟩
    exact absurd served (off segment route)
  case counted => exact fun segment route served => absurd served (off segment route)
  case waits =>
    rw [isSome_header?_iff]
    exact ⟨fun there => absurd there (plain.headers _ (.head _)),
      fun denied => absurd denied plain.status⟩
  case refused => exact fun denied => absurd denied plain.status

theorem Told.of_charged {tenant : Uuid} {segment : String} {before after : Nat}
    {result : Except Fault Outcome} (route : Route.ofPath? r.path = some (.run segment))
    (own : g.authenticate r = .ok tenant) (charged : Charged quota before result after)
    (shows : Shows quota tenant after g') : Told quota g r (outcome quota result, g') := by
  cases charged with
  | unowned agent room =>
      exact .of_plain (.ofFault (show 404 ≠ 429 by decide)) fun _ _ => show 404 ≠ 200 by decide
  | denied named =>
      constructor
      case headed =>
        intro name mem
        rw [isSome_header?_iff]
        refine ⟨fun there => ?_, fun served => absurd served.1 (show 429 ≠ 200 by decide)⟩
        have other : ∀ name ∈ quotaHeaders, name ∉ ["content-type", "retry-after"] := by decide
        exact absurd there (other name mem)
      case counted => exact fun _ _ served => absurd served (show 429 ≠ 200 by decide)
      case waits => exact ⟨fun _ => rfl, fun _ => rfl⟩
      case refused => exact fun _ => ⟨tenant, _, _, own, named, rfl, rfl, shows⟩
  | executed o =>
      constructor
      case headed =>
        intro name mem
        rw [isSome_header?_iff]
        exact ⟨fun _ => ⟨rfl, segment, route⟩, fun _ => .tail _ mem⟩
      case counted => exact fun _ _ _ => ⟨tenant, _, own, rfl, rfl, rfl, shows⟩
      case waits =>
        rw [isSome_header?_iff]
        refine ⟨fun there => ?_, fun denied => absurd denied (show 200 ≠ 429 by decide)⟩
        have other : "retry-after" ∉ "content-type" :: quotaHeaders := by decide
        exact absurd there other
      case refused => exact fun denied => absurd denied (show 200 ≠ 429 by decide)

/-- A charged order is refused for the quota exactly if nothing remains, and
takes one off what remains if it is executed. -/
theorem Charged.foretold {before after : Nat} {result : Except Fault Outcome}
    (h : Charged quota before result after) :
    ((outcome quota result).status = 429 ↔ before = 0)
      ∧ ((outcome quota result).status = 200 →
        (outcome quota result).header? "x-ratelimit-remaining"
          = some (toString (before - 1))) := by
  cases h with
  | denied named => exact ⟨⟨fun _ => rfl, fun _ => rfl⟩, nofun⟩
  | unowned agent room => exact ⟨⟨nofun, nofun⟩, nofun⟩
  | executed o => exact ⟨⟨nofun, nofun⟩, fun _ => rfl⟩

end

section

variable {tenant : Uuid} {site : Site} {x x' : Holdings} {r : Http.Request}

theorem AsksQuota.handle (h : (site.gateway x).AsksQuota tenant r) (stamp : Stamp) :
    (site.gateway x).handle stamp r
      = (quotaTold site.quota (site.room tenant x.windows),
        site.gateway (site.counted tenant x)) := by
  have found : Route.ofPath? r.path = some .rateLimit := by
    rw [h.path]
    decide +kernel
  have answers : Route.answers r.method .rateLimit = true := by
    rw [h.method]
    decide
  rw [handle_of_rateLimit found answers h.own, sent_of_method h.method (by decide)]

/-- Who has a key can ask, with the headers of any request. -/
theorem asksQuota_of_own {g : Gateway Memory} (own : g.authenticate r = .ok tenant) :
    g.AsksQuota tenant ⟨"GET", "/api/v1/rate-limit", r.headers, []⟩ := by
  refine ⟨rfl, ?_, own⟩
  unfold Http.Request.path Http.Request.pathAndQuery
  dsimp only
  decide +kernel

theorem shows_room (own : (site.gateway x).authenticate r = .ok tenant) :
    Shows site.quota tenant (site.room tenant x.windows) (site.gateway x) where
  asks := ⟨_, asksQuota_of_own own⟩
  told stamp _ asks := congrArg Prod.fst (asks.handle stamp)

/-- An order that comes to the limiter is told what it was charged, and any
other one nothing. -/
theorem told_of_order {segment : String} {o : Order}
    (route : Route.ofPath? r.path = some (.run segment))
    (own : (site.gateway x).authenticate r = .ok o.tenant) :
    Told site.quota (site.gateway x) r (site.ordered o x) := by
  cases checked : o.request.check site.settings with
  | error e =>
      have status := status_of_check checked
      have settings : site.setup.settings = site.settings := rfl
      have result : site.setup.result o x.windows = .error e := by
        unfold Setup.result
        rw [settings, checked]
      unfold Site.ordered
      rw [result]
      exact .of_plain (.ofFault (by rw [status]; decide)) fun _ _ => status_ofFault_ne e
  | ok u =>
      have own' : (site.gateway ⟨site.setup.remains o x.windows,
          x.records ++ recorded (site.setup.result o x.windows)⟩).authenticate r
        = .ok o.tenant := own
      have shows := shows_room own'
      exact .of_charged route own (charged_of_valid checked x.windows) shows

theorem told_handle (stamp : Stamp) (r : Http.Request) (site : Site) (x : Holdings) :
    Told site.quota (site.gateway x) r ((site.gateway x).handle stamp r) := by
  cases comes site r with
  | aside reply plain off comes =>
      rw [comes]
      exact .of_plain (plain _) fun segment run => off segment run _
  | count tenant reply plain off comes =>
      rw [comes]
      exact .of_plain (plain _) fun segment run => absurd run (off segment)
  | order tenant agent q segment posted route own comes =>
      rw [comes]
      exact told_of_order route (own x)

/-- A run that comes to the limiter is refused there exactly if nothing
remains, and takes one off what remains if it is executed. -/
theorem ComesToLimiter.handle (h : (site.gateway x).ComesToLimiter tenant r) (stamp : Stamp) :
    let next := ((site.gateway x).handle stamp r).1
    (next.status = 429 ↔ site.room tenant x.windows = 0)
      ∧ (next.status = 200 → next.header? "x-ratelimit-remaining"
          = some (toString (site.room tenant x.windows - 1))) := by
  obtain ⟨segment, text, agent, q, route, decoded, read, valid⟩ := h.task
  rw [handle_of_task route h.method h.own decoded read]
  exact (charged_of_valid (o := ⟨stamp, tenant, agent, q⟩) valid x.windows).foretold

-- ================================================= requests that only read

/-- Are two holdings the same, but for expired records at the front of the
first one's logs? -/
structure Sheds (site : Site) (x x' : Holdings) : Prop where
  windows : Memory.Sheds (span site.quota.seconds) x.windows x'.windows
  records : x'.records = x.records

namespace Sheds

theorem ordered (h : Sheds site x x') (o : Order) :
    ∃ response y y', site.ordered o x = (response, site.gateway y)
      ∧ site.ordered o x' = (response, site.gateway y') ∧ Sheds site y y' := by
  have settings : site.setup.settings = site.settings := rfl
  unfold Site.ordered Setup.result Setup.remains
  rw [settings, h.records]
  cases o.request.check site.settings with
  | error e => exact ⟨_, _, _, rfl, rfl, h.windows, rfl⟩
  | ok u =>
      obtain ⟨verdict, left⟩ := h.windows.check (.ofTenant o.tenant) site.quota.limit
      dsimp only
      rw [charge_setup, charge_setup, verdict]
      exact ⟨_, _, _, rfl, rfl, left, rfl⟩

/-- A request is answered alike, and there is no more of a difference
after it. -/
theorem handle (h : Sheds site x x') (stamp : Stamp) (r : Http.Request) :
    ∃ response y y', (site.gateway x).handle stamp r = (response, site.gateway y)
      ∧ (site.gateway x').handle stamp r = (response, site.gateway y') ∧ Sheds site y y' := by
  cases comes site r with
  | aside reply plain off comes =>
      refine ⟨_, x, x', comes stamp x, ?_, h⟩
      rw [comes, h.records]
  | count tenant reply plain off comes =>
      obtain ⟨count, left⟩ := h.windows.peek (.ofTenant tenant) site.quota.limit
      rw [Memory.peek_eq, Memory.peek_eq] at count
      have room : site.room tenant x'.windows = site.room tenant x.windows := count
      refine ⟨_, site.counted tenant x, site.counted tenant x', comes stamp x, ?_, left, h.records⟩
      rw [comes, room]
  | order tenant agent q segment posted route own comes =>
      rw [comes, comes]
      exact h.ordered _

/-- From here on nobody notices the difference. -/
theorem trace_eq (h : Sheds site x x') (events : List Event)
    (fits : x.windows.now + elapsed events ≤ maxCount) :
    trace events (site.gateway x') = trace events (site.gateway x) := by
  induction events generalizing x x' with
  | nil => rfl
  | cons e events ih =>
      have fits : x.windows.now + (e.elapsed + elapsed events) ≤ maxCount := fits
      cases e with
      | advance ms =>
          have le : x.windows.now + ms ≤ maxCount :=
            (Nat.add_le_add_left (Nat.le_add_right ..) _).trans fits
          have left : Sheds site ⟨x.windows.advance ms, x.records⟩
            ⟨x'.windows.advance ms, x'.records⟩ := ⟨h.windows.advance le, h.records⟩
          have now := Memory.now_advance le
          refine ih left ?_
          rw [now, Nat.add_assoc]
          exact fits
      | purge seconds =>
          have left : Sheds site ⟨(x.windows.purge seconds).2, x.records⟩
            ⟨(x'.windows.purge seconds).2, x'.records⟩ := ⟨h.windows.purge seconds, h.records⟩
          have fits : x.windows.now + (0 + elapsed events) ≤ maxCount := fits
          rw [Nat.zero_add] at fits
          exact ih left fits
      | request stamp r =>
          obtain ⟨response, y, y', handled, handled', left⟩ := h.handle stamp r
          have now := now_handle stamp r site x
          rw [handled] at now
          have now : y.windows.now = x.windows.now := now
          have fits : x.windows.now + (0 + elapsed events) ≤ maxCount := fits
          rw [Nat.zero_add, ← now] at fits
          rw [trace_request, trace_request, handled, handled', ih left fits]

end Sheds

theorem exists_take (e : Event) (site : Site) (x : Holdings) :
    ∃ y, (e.take (site.gateway x)).2 = site.gateway y := by
  cases e with
  | advance ms => exact ⟨⟨x.windows.advance ms, x.records⟩, rfl⟩
  | purge seconds => exact ⟨⟨(x.windows.purge seconds).2, x.records⟩, rfl⟩
  | request stamp r => exact exists_handle stamp r site x

theorem exists_after (events : List Event) (site : Site) (x : Holdings) :
    ∃ y, after events (site.gateway x) = site.gateway y := by
  induction events generalizing x with
  | nil => exact ⟨x, rfl⟩
  | cons e events ih =>
      obtain ⟨y, taken⟩ := exists_take e site x
      obtain ⟨z, rest⟩ := ih y
      refine ⟨z, ?_⟩
      show after events (e.take (site.gateway x)).2 = _
      rw [taken, rest]

end

-- =========================================================== the theorem

/-- At any gateway over windows in memory, whatever the logs hold. -/
theorem annotated_gateway (site : Site) (x : Holdings) :
    Annotated site.quota (site.gateway x) := by
  constructor
  case told => exact fun stamp r => told_handle stamp r site x
  case foretold =>
    intro stamp r tenant asks
    refine ⟨site.room tenant x.windows, congrArg Prod.fst (asks.handle stamp), ?_⟩
    rw [asks.handle]
    intro stamp' r' comesTo
    have next := comesTo.handle stamp'
    rw [room_counted] at next
    exact next
  case harmless =>
    intro stamp r read later fits
    cases comes site r with
    | aside reply plain off comes => rw [comes]
    | count tenant reply plain off comes =>
        have shed : Sheds site x (site.counted tenant x) := ⟨.of_peek .., rfl⟩
        rw [comes]
        exact shed.trace_eq later fits
    | order tenant agent q segment posted route own comes => exact absurd posted read

/-- Whatever has been asked of a gateway since it was opened, at whatever
times, and however its windows were purged. -/
theorem annotated_after (s : Settings) (quota : Quota) (now : Nat) (events : List Event) :
    Annotated quota (after events (opening s quota now)) := by
  obtain ⟨site, opened⟩ := exists_site s quota now
  obtain ⟨y, reached⟩ := exists_after events site ⟨.start now, []⟩
  have same : quota = site.quota := congrArg (fun g => g.service.limiter.quota) opened
  rw [opened, reached, same]
  exact annotated_gateway site y

/-- Under a quota of one a minute: the run, the one after it ten seconds
later, and what is told in between. -/
example :
    let s : Settings :=
      { Settings.default with
        apiKeys := [⟨"a", .ofNat 1⟩]
        agents := [⟨.ofNat 3, .ofNat 1, "Ada", "helper", []⟩] }
    let run : Http.Request :=
      ⟨"POST", "/api/v1/agents/00000000-0000-0000-0000-000000000003/run",
        [("x-api-key", "a"), ("content-type", "application/json")],
        "\x7b\"prompt\":\"hello\",\"model\":\"gpt-5\"\x7d".toUTF8.toList⟩
    let look : Http.Request := ⟨"GET", "/api/v1/rate-limit", [("x-api-key", "a")], []⟩
    let events : List Event := [.request ⟨"1", "t"⟩ run, .advance 10000,
      .request ⟨"2", "t"⟩ look, .request ⟨"3", "t"⟩ run]
    (trace events (opening s ⟨1, 60, by decide, by decide⟩ 0)).map (fun a =>
        (a.2.status, a.2.header? "x-ratelimit-remaining", a.2.header? "retry-after"))
      = [(200, some "0", none), (200, none, none), (429, none, some "50")] := by
  decide +kernel

end Gateway

end TenantGate
