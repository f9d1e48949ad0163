/-
The gateway: what each route answers.

A route is found by the path, byte for byte; only the segment that names
an agent may be anything. A route answers one method, and `HEAD` like
`GET` without the body. On a run the gates stand in this order: the key
is there, somebody has it, the segment is text, it is an identifier, the
body is a request; then the execution has gates of its own.
-/
import TenantGate.Directory.Keys
import TenantGate.Execution.Document
import TenantGate.Http.Body
import TenantGate.Http.Paging
import TenantGate.Http.Response

namespace TenantGate

open Execution (Service Stamp)
open Http

/-- What can be asked of the gateway. -/
inductive Gateway.Route where
  | health
  | rateLimit
  | history
  /-- A run of the agent that a segment of the path names. -/
  | run (segment : String)
deriving DecidableEq

namespace Gateway.Route

/-- The segment between the fixed parts of a run's path. -/
def segment? (path : List Char) : Option (List Char) :=
  let start := "/api/v1/agents/".toList
  if path.take start.length = start then
    let rest := path.drop start.length
    if rest.dropWhile (· ≠ '/') = "/run".toList then some (rest.takeWhile (· ≠ '/'))
    else none
  else none

/-- The route of a path. -/
def ofPath? (path : List Char) : Option Route :=
  if path = "/health".toList then some health
  else if path = "/api/v1/rate-limit".toList then some rateLimit
  else if path = "/api/v1/history".toList then some history
  else (segment? path).map fun s => run (String.ofList s)

/-- Is a route answered for a method? -/
def answers (method : String) : Route → Bool
  | run _ => method = "POST"
  | _ => method = "GET" || method = "HEAD"

/-- The methods of a route as a header lists them. -/
def allowed : Route → String
  | run _ => "POST"
  | _ => "GET,HEAD"

end Gateway.Route

/-- The executions, the keys of the tenants, and the gateway's name. -/
structure Gateway (σ : Type) where
  service : Service σ
  keys : Directory.Keys
  name : String

namespace Gateway

variable {σ : Type}

/-- The version that the gateway reports. -/
def version : String := "0.1.0"

def missingKey : Fault :=
  .authentication "MISSING_API_KEY" "API key is required. Provide it in the X-API-KEY header"

/-- The tenant whose key a request carries. -/
def authenticate (r : Request) (g : Gateway σ) : Except Fault Uuid :=
  match (r.visibleHeader? "x-api-key").filter (· ≠ "") with
  | some key => g.keys.resolve key
  | none => .error missingKey

def badAgent (text : String) : Fault :=
  .invalid "agent_id must be a valid UUID"
    (.object [("field", "agent_id"), ("value", text)])

/-- The fault of a query that asks for no page. -/
def badPaging (details : Json) : Fault :=
  .validation "INVALID_PAGINATION" "Pagination parameters are invalid" details

def badQuery (e : Paging.Fault) : Fault :=
  badPaging (.object [("reason", "Failed to deserialize query string: " ++ e.message)])

def badLimit (provided allowed : Nat) : Fault :=
  badPaging (.object
    [("limit", .object [("provided", .nat provided), ("max_allowed", .nat allowed)])])

def health (g : Gateway σ) : Response :=
  .json 200 [] (.object [("status", "healthy"), ("service", g.name), ("version", version)])

/-- Tells a tenant its quota. -/
def rateLimit (tenant : Uuid) (g : Gateway σ) : Response × Gateway σ :=
  let (remaining, service) := g.service.remaining tenant
  let quota := service.limiter.quota
  (.json 200 [] (.object [("limit", .nat quota.limit), ("remaining", .nat remaining),
    ("window_seconds", .nat quota.seconds)]), { g with service })

/-- The page that a query asks for, within the greatest page size. -/
def page (tenant : Uuid) (query : List Char) (g : Gateway σ) :
    Except Fault Execution.Page :=
  match Paging.ofQuery query with
  | .error e => .error (badQuery e)
  | .ok paging =>
      let settings := g.service.settings
      let limit := paging.limit.getD settings.defaultPageLimit
      if limit = 0 ∨ settings.maxPageLimit < limit then
        .error (badLimit limit settings.maxPageLimit)
      else g.service.page tenant limit paging.offset

/-- Shows a tenant its records. -/
def history (tenant : Uuid) (query : List Char) (g : Gateway σ) : Response :=
  match g.page tenant query with
  | .ok p => .json 200 [] p.toJson
  | .error e => .ofFault e

/-- The agent and the request of a run. -/
def task (text : String) (r : Request) : Except Fault (Uuid × Execution.Request) :=
  match Uuid.ofText? text with
  | none => .error (badAgent text)
  | some agent =>
      match Body.read r with
      | .error e => .error (.invalid e.message .null)
      | .ok request => .ok (agent, request)

/-- The response to a run. -/
def outcome (quota : Limit.Quota) : Except Fault Execution.Outcome → Response
  | .error e => .ofFault e
  | .ok o =>
      .json 200 [("x-ratelimit-limit", toString quota.limit),
        ("x-ratelimit-remaining", toString o.remaining),
        ("x-ratelimit-window", toString quota.seconds)] o.toJson

/-- Runs an agent for a tenant. -/
def run (stamp : Stamp) (tenant : Uuid) (segment : String) (r : Request) (g : Gateway σ) :
    Response × Gateway σ :=
  match Text.Percent.decodeText? segment with
  | none => (.text 400 "Invalid URL: Invalid UTF-8 in `agent_id`", g)
  | some text =>
      match task text r with
      | .error e => (.ofFault e, g)
      | .ok (agent, request) =>
          let (result, service) := g.service.execute stamp tenant agent request
          (outcome service.limiter.quota result, { g with service })

/-- Answers on a route for a tenant. -/
def answerTenant (stamp : Stamp) (route : Route) (tenant : Uuid) (r : Request)
    (g : Gateway σ) : Response × Gateway σ :=
  match route with
  | .health => (g.health, g)
  | .rateLimit => g.rateLimit tenant
  | .history => (g.history tenant r.query, g)
  | .run segment => g.run stamp tenant segment r

/-- Answers on a route. -/
def answer (stamp : Stamp) (route : Route) (r : Request) (g : Gateway σ) :
    Response × Gateway σ :=
  if route = .health then (g.health, g)
  else
    match g.authenticate r with
    | .error e => (.ofFault e, g)
    | .ok tenant => g.answerTenant stamp route tenant r

/-- Answers a request; `stamp` is for the record, if one is made. -/
def handle (stamp : Stamp) (r : Request) (g : Gateway σ) : Response × Gateway σ :=
  match Route.ofPath? r.path with
  | none => (.empty 404 [], g)
  | some route =>
      if route.answers r.method then
        let (response, g) := g.answer stamp route r
        (if r.method = "HEAD" then response.headOnly else response, g)
      else (.empty 405 [("allow", route.allowed)], g)

end Gateway

end TenantGate
