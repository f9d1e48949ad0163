/-
The gates of a run, and what a failure at each of them costs.

# The gates

A run passes ten gates. What it is to pass one is said of each on its own
(`Visit.Passes`), from what arrived and what the gateway knows, without
regard to the order in which they are tried, so any of them may fail
together with any others. That a segment names an agent and that a body
is an order is said with the readers of the gateway (`Uuid.ofText?`,
`Body.read`); what those accept is another matter. The response is made at
the first gate that is not passed: `Stops` names that gate, `Refusal` what
is answered there.

# What it costs

Up to the limiter nothing happens, so a refusal leaves the gateway as it
was, to the last window. From there on the backend has been called once,
and by a run that passes all gates one record has been made. `Ends` holds
these three ends of a visit. The proof walks from gate to gate: `Reaches`
says that the gates before one are passed, and is carried along.
-/
import TenantGate.Proofs.Execution.Charging
import TenantGate.Proofs.Execution.Rules
import TenantGate.Gateway
import TenantGate.Limit.Memory

namespace TenantGate.Gateway

open Directory (Agent Agents Keys)
open Execution (Order Outcome Record Setup Stamp recorded)
open Http
open Limit (Error Exchange Key)
open Window (Verdict)

-- ============================================================= the route

/-- The path of a run leads to the segment that it names. -/
theorem Route.ofPath?_run {segment : List Char} (whole : '/' ∉ segment) :
    ofPath? ("/api/v1/agents/".toList ++ segment ++ "/run".toList)
      = some (run (String.ofList segment)) := by
  have inside : ∀ c ∈ segment, decide (c ≠ '/') = true := fun c hc =>
    decide_eq_true fun e => whole (e ▸ hc)
  have found : segment? ("/api/v1/agents/".toList ++ segment ++ "/run".toList) = some segment := by
    unfold segment?
    dsimp only
    rw [List.append_assoc, List.take_left, List.drop_left, if_pos rfl,
      List.dropWhile_append_of_pos inside, List.takeWhile_append_of_pos inside]
    rw [if_pos (by rfl)]
    exact congrArg some (List.append_nil segment)
  unfold ofPath?
  rw [if_neg (by simp), if_neg (by simp), if_neg (by simp), found]
  rfl

-- ============================================================= the gates

/-- The gates of a run. -/
inductive Gate where
  | key | tenant | agent | body | prompt | model | temperature | tokens | limit | owner
deriving DecidableEq

namespace Gate

/-- Their order. -/
def order : List Gate :=
  [key, tenant, agent, body, prompt, model, temperature, tokens, limit, owner]

def place (gate : Gate) : Nat := order.idxOf gate

theorem getElem?_place (gate : Gate) : order[gate.place]? = some gate := by
  cases gate with
  | _ => rfl

theorem eq_of_place {a b : Gate} (same : a.place = b.place) : a = b :=
  Option.some.inj ((getElem?_place a).symm.trans (same ▸ getElem?_place b))

/-- The statuses of a refusal. -/
def statuses : Gate → List Nat
  | key | tenant => [401]
  | limit => [429, 503, 500]
  | owner => [404]
  | _ => [400]

/-- The code of a refusal, where it is the gate's own. -/
def code? : Gate → Option String
  | key => "MISSING_API_KEY"
  | tenant => "INVALID_API_KEY"
  | model => "INVALID_MODEL"
  | owner => "AGENT_NOT_FOUND"
  | _ => none

end Gate

/-- A request to run the agent that a segment of its path names, and the
gateway that it comes to, with any backend and the parts that every
gateway starts with; `store` is where the windows are kept. -/
structure Visit (σ : Type) where
  setup : Setup σ
  keys : Keys
  name : String
  store : σ
  segment : String
  request : Http.Request
  posted : request.method = "POST"
  path : request.path = "/api/v1/agents/".toList ++ segment.toList ++ "/run".toList
  whole : '/' ∉ segment.toList

variable {σ : Type}

namespace Visit

/-- The gateway, with the exchanges of the backend written down. -/
def gateway (exchanges : List Exchange) (records : List Record) (v : Visit σ) :
    Gateway (σ × List Exchange) :=
  ⟨v.setup.transcribed.service (v.store, exchanges) records, v.keys, v.name⟩

/-- The limiter's answer if a tenant is charged, and what it leaves of the
windows. -/
def charge (tenant : Uuid) (v : Visit σ) : Except Error Verdict × σ :=
  v.setup.backend.check (.ofTenant tenant) v.setup.quota.limit v.setup.quota.seconds v.store

/-- The gateway when a tenant has been charged. -/
def charged (tenant : Uuid) (exchanges : List Exchange) (records : List Record) (v : Visit σ) :
    Gateway (σ × List Exchange) :=
  ⟨v.setup.transcribed.service ((v.charge tenant).2, exchanges ++
      [.check (.ofTenant tenant) v.setup.quota.limit v.setup.quota.seconds (v.charge tenant).1])
    records, v.keys, v.name⟩

-- ====================================================== what it comes with

/-- The first header for a key holds this one; all of it is visible. -/
def Carries (key : String) (v : Visit σ) : Prop :=
  v.request.header? "x-api-key" = some key ∧ Http.Request.isVisible key = true ∧ key ≠ ""

/-- The key is this tenant's. -/
def From (tenant : Uuid) (v : Visit σ) : Prop :=
  ∃ key, v.Carries key ∧ v.keys.table.get? key = some tenant

/-- The segment is the identifier of this agent. -/
def Names (agent : Uuid) (v : Visit σ) : Prop :=
  ∃ text, Text.Percent.decodeText? v.segment = some text ∧ Uuid.ofText? text = some agent

/-- The body holds this request. -/
def Asks (q : Execution.Request) (v : Visit σ) : Prop := Body.read v.request = .ok q

/-- The limiter gives its tenant this answer. -/
def Told (answer : Except Error Verdict) (v : Visit σ) : Prop :=
  ∃ tenant, v.From tenant ∧ (v.charge tenant).1 = answer

/-- What it is to pass a gate. -/
def Passes (v : Visit σ) : Gate → Prop
  | .key => ∃ key, v.Carries key
  | .tenant => ∃ tenant, v.From tenant
  | .agent => ∃ agent, v.Names agent
  | .body => ∃ q, v.Asks q
  | .prompt => ∃ q, v.Asks q ∧ q.PromptFits v.setup.settings
  | .model => ∃ q, v.Asks q ∧ q.model ∈ v.setup.settings.allowedModels
  | .temperature => ∃ q, v.Asks q ∧ q.TemperatureInRange
  | .tokens => ∃ q, v.Asks q ∧ q.TokensInRange
  | .limit => ∃ left, v.Told (.ok (.admitted left))
  | .owner => ∃ tenant agent a, v.From tenant ∧ v.Names agent
      ∧ v.setup.agents.table.get? agent = some a ∧ a.tenant = tenant

/-- What is answered at a gate to who does not pass it. -/
inductive Refusal (v : Visit σ) : Gate → Response → Prop
  | key : Refusal v .key (.ofFault missingKey)
  | tenant : Refusal v .tenant (.ofFault Keys.unknown)
  | unreadable : Text.Percent.decodeText? v.segment = none →
      Refusal v .agent (.text 400 "Invalid URL: Invalid UTF-8 in `agent_id`")
  | agent {text : String} : Text.Percent.decodeText? v.segment = some text →
      Refusal v .agent (.ofFault (badAgent text))
  | body {e : Body.Fault} : Body.read v.request = .error e →
      Refusal v .body (.ofFault (.invalid e.message .null))
  | prompt {q : Execution.Request} : v.Asks q →
      Refusal v .prompt (.ofFault (q.promptFault v.setup.settings))
  | model {q : Execution.Request} : v.Asks q →
      Refusal v .model (.ofFault (q.modelFault v.setup.settings))
  | temperature {q : Execution.Request} : v.Asks q →
      Refusal v .temperature (.ofFault q.temperatureFault)
  | tokens {q : Execution.Request} {n : Nat} : v.Asks q → q.maxTokens = some n →
      Refusal v .tokens (.ofFault (Execution.Request.tokensFault n))
  | denied {wait : Nat} : v.Told (.ok (.denied wait)) →
      Refusal v .limit
        (.ofFault (.rateLimitExceeded wait v.setup.quota.limit v.setup.quota.seconds))
  | unavailable {reason detail : String} : v.Told (.error (.unavailable reason detail)) →
      Refusal v .limit (.ofFault
        (.serviceUnavailable reason "Rate limiting service temporarily unavailable"))
  | misconfigured {detail : String} : v.Told (.error (.invalid detail)) →
      Refusal v .limit (.ofFault (.config detail))
  | owner {agent : Uuid} : v.Names agent → Refusal v .owner (.ofFault (Agents.missing agent))

/-- It passes all gates before this one. -/
def Reaches (v : Visit σ) (gate : Gate) : Prop :=
  ∀ earlier : Gate, earlier.place < gate.place → v.Passes earlier

/-- The first gate that it does not pass. -/
def Stops (v : Visit σ) (gate : Gate) : Prop := v.Reaches gate ∧ ¬ v.Passes gate

section

variable {v : Visit σ}

theorem Carries.unique {key key' : String} (h : v.Carries key) (h' : v.Carries key') :
    key = key' :=
  Option.some.inj (h.1.symm.trans h'.1)

theorem From.unique {tenant tenant' : Uuid} (h : v.From tenant) (h' : v.From tenant') :
    tenant = tenant' := by
  obtain ⟨key, carries, known⟩ := h
  obtain ⟨key', carries', known'⟩ := h'
  rw [carries.unique carries', known'] at known
  exact (Option.some.inj known).symm

theorem Names.unique {agent agent' : Uuid} (h : v.Names agent) (h' : v.Names agent') :
    agent = agent' := by
  obtain ⟨text, decoded, read⟩ := h
  obtain ⟨text', decoded', read'⟩ := h'
  rw [Option.some.inj (decoded.symm.trans decoded'), read'] at read
  exact (Option.some.inj read).symm

theorem Asks.unique {q q' : Execution.Request} (h : v.Asks q) (h' : v.Asks q') : q = q' :=
  Except.ok.inj (h.symm.trans h')

theorem Told.unique {answer answer' : Except Error Verdict} (h : v.Told answer)
    (h' : v.Told answer') : answer = answer' := by
  obtain ⟨tenant, own, told⟩ := h
  obtain ⟨tenant', own', told'⟩ := h'
  rw [← told, ← told', own.unique own']

/-- A rule that the request breaks is not kept by another. -/
theorem Asks.not_exists {q : Execution.Request} {rule : Execution.Request → Prop}
    (h : v.Asks q) (broken : ¬ rule q) : ¬ ∃ q', v.Asks q' ∧ rule q' := by
  rintro ⟨q', asks, kept⟩
  exact broken (h.unique asks ▸ kept)

theorem reaches_key : v.Reaches .key := fun earlier before =>
  absurd before (Nat.not_lt_zero earlier.place)

/-- Who passes a gate comes to the next. -/
theorem Reaches.next {gate next : Gate} (h : v.Reaches gate) (passes : v.Passes gate)
    (place : next.place = gate.place + 1) : v.Reaches next := by
  intro earlier before
  rcases Nat.lt_or_eq_of_le (Nat.le_of_lt_succ (place ▸ before)) with before | same
  · exact h earlier before
  · exact Gate.eq_of_place same ▸ passes

/-- Who passes the last gate has passed them all. -/
theorem Reaches.all (h : v.Reaches .owner) (passes : v.Passes .owner) (gate : Gate) :
    v.Passes gate := by
  by_cases last : gate = .owner
  · exact last ▸ passes
  · refine h gate ?_
    cases gate with
    | owner => exact absurd rfl last
    | _ => decide

theorem Stops.unique {gate gate' : Gate} (h : v.Stops gate) (h' : v.Stops gate') :
    gate = gate' := by
  rcases Nat.lt_trichotomy gate.place gate'.place with before | same | after
  · exact absurd (h'.1 gate before) h.2
  · exact Gate.eq_of_place same
  · exact absurd (h.1 gate' after) h'.2

theorem Refusal.status_mem {gate : Gate} {response : Response} (h : v.Refusal gate response) :
    response.status ∈ gate.statuses := by
  cases h with
  | unavailable => exact .tail _ (.head _)
  | misconfigured => exact .tail _ (.tail _ (.head _))
  | _ => exact .head _

theorem Refusal.status_ne {gate : Gate} {response : Response} (h : v.Refusal gate response) :
    response.status ≠ 200 := by
  have told := h.status_mem
  intro served
  rw [served] at told
  cases gate with
  | _ => exact absurd told (by decide)

/-- The limiter, and the gate after it, tell nobody of a bad request. -/
theorem Refusal.status_of_late {gate : Gate} {response : Response} (h : v.Refusal gate response)
    (late : Gate.limit.place ≤ gate.place) : response.status ≠ 400 ∧ response.status ≠ 401 := by
  have told := h.status_mem
  constructor
  all_goals
    intro bad
    rw [bad] at told
    revert told late
    cases gate with
    | _ => decide

theorem Refusal.code {gate : Gate} {response : Response} (h : v.Refusal gate response) :
    ∀ code ∈ gate.code?, ∃ e, response = .ofFault e ∧ e.code = code := by
  intro code own
  cases h with
  | key | tenant | model | owner =>
      cases own
      exact ⟨_, rfl, rfl⟩
  | _ => cases own

end

-- ======================================================= from gate to gate

/-- How a visit ends: at a gate before the limiter, with the gateway as it
was; at the limiter or after it; or with a run. -/
inductive Ends (v : Visit σ) (stamp : Stamp) (exchanges : List Exchange)
    (records : List Record) : Response × Gateway (σ × List Exchange) → Prop
  | uncharged {gate : Gate} {response : Response} (stops : v.Stops gate)
      (early : gate.place < Gate.limit.place) (refusal : v.Refusal gate response) :
      Ends v stamp exchanges records (response, v.gateway exchanges records)
  | charged {gate : Gate} {response : Response} {tenant : Uuid} (own : v.From tenant)
      (stops : v.Stops gate) (late : Gate.limit.place ≤ gate.place)
      (refusal : v.Refusal gate response) :
      Ends v stamp exchanges records (response, v.charged tenant exchanges records)
  | run {tenant agent : Uuid} {q : Execution.Request} {a : Agent} {left : Nat}
      (own : v.From tenant) (names : v.Names agent) (asks : v.Asks q)
      (admitted : v.Told (.ok (.admitted left)))
      (owned : v.setup.agents.find tenant agent = .ok a) (passes : ∀ gate, v.Passes gate) :
      Ends v stamp exchanges records
        (outcome v.setup.quota (.ok (Order.outcome a left ⟨stamp, tenant, agent, q⟩)),
          v.charged tenant exchanges (records ++ [Order.record a ⟨stamp, tenant, agent, q⟩]))

section

variable {v : Visit σ} {stamp : Stamp} {exchanges : List Exchange} {records : List Record}

/-- The response to an order, and the gateway after it. -/
def serve (o : Order) (exchanges : List Exchange) (records : List Record) (v : Visit σ) :
    Response × Gateway (σ × List Exchange) :=
  let served := (v.gateway exchanges records).service.serve o
  (outcome served.2.limiter.quota served.1, ⟨served.2, v.keys, v.name⟩)

/-- The response to what an order came to when its tenant was charged, and
the gateway after it. -/
def settled (o : Order) (result : Except Fault Outcome) (exchanges : List Exchange)
    (records : List Record) (v : Visit σ) : Response × Gateway (σ × List Exchange) :=
  (outcome v.setup.quota result, v.charged o.tenant exchanges (records ++ recorded result))

theorem serve_of_valid {o : Order} (valid : o.request.check v.setup.settings = .ok ()) :
    v.serve o exchanges records
      = v.settled o (v.setup.fate o (v.charge o.tenant).1) exchanges records := by
  have served := v.setup.serve_transcribed o v.store exchanges records
  have checked := Execution.Order.valid_iff.2 valid
  have fees : v.setup.fees o v.store = [.check (.ofTenant o.tenant) v.setup.quota.limit
      v.setup.quota.seconds (v.charge o.tenant).1] := if_pos checked
  have remains : v.setup.remains o v.store = (v.charge o.tenant).2 := by
    unfold Setup.remains
    rw [valid]
    rfl
  rw [Setup.result_of_valid checked, remains, fees] at served
  have served : (v.gateway exchanges records).service.serve o = _ := served
  unfold serve
  rw [served]
  rfl

theorem serve_of_invalid {o : Order} {e : Fault}
    (invalid : o.request.check v.setup.settings = .error e) :
    v.serve o exchanges records = (.ofFault e, v.gateway exchanges records) := by
  have served : (v.gateway exchanges records).service.serve o = _ :=
    (Execution.inStep_transcribed v.setup o v.store exchanges records).invalid e invalid
  unfold serve
  rw [served]
  rfl

/-- Who is refused after the charge leaves no record. -/
theorem ends_of_refused {o : Order} {gate : Gate} {e : Fault} (own : v.From o.tenant)
    (stops : v.Stops gate) (late : Gate.limit.place ≤ gate.place)
    (refusal : v.Refusal gate (.ofFault e)) :
    v.Ends stamp exchanges records (v.settled o (.error e) exchanges records) := by
  unfold settled
  rw [recorded, List.append_nil]
  exact .charged own stops late refusal

variable {tenant agent : Uuid} {q : Execution.Request}

/-- The gate after the limiter: the agent is looked up. -/
theorem ends_of_admitted (own : v.From tenant) (names : v.Names agent) (asks : v.Asks q)
    {left : Nat} (admitted : v.Told (.ok (.admitted left))) (reaches : v.Reaches .owner) :
    v.Ends stamp exchanges records (v.settled ⟨stamp, tenant, agent, q⟩
      (v.setup.fate ⟨stamp, tenant, agent, q⟩ (.ok (.admitted left))) exchanges records) := by
  unfold Setup.fate
  dsimp only
  by_cases owned : ∃ a, v.setup.agents.table.get? agent = some a ∧ a.tenant = tenant
  · obtain ⟨a, owned⟩ := owned
    have found := Agents.find_eq_ok_iff.2 owned
    rw [found]
    exact .run own names asks admitted found (reaches.all ⟨tenant, agent, a, own, names, owned⟩)
  · rw [Agents.find_of_unowned fun a found own => owned ⟨a, found, own⟩]
    refine ends_of_refused own ⟨reaches, ?_⟩ (by decide) (.owner names)
    rintro ⟨tenant', agent', a, own', names', found, theirs⟩
    rw [names'.unique names] at found
    exact owned ⟨a, found, theirs.trans (own'.unique own)⟩

/-- The limiter's gate. -/
theorem ends_of_valid (own : v.From tenant) (names : v.Names agent) (asks : v.Asks q)
    (valid : q.check v.setup.settings = .ok ()) (reaches : v.Reaches .limit) :
    v.Ends stamp exchanges records (v.serve ⟨stamp, tenant, agent, q⟩ exchanges records) := by
  have told : v.Told (v.charge tenant).1 := ⟨tenant, own, rfl⟩
  have stops : (∀ left, (v.charge tenant).1 ≠ .ok (.admitted left)) → v.Stops .limit :=
    fun denied => ⟨reaches, fun ⟨left, admitted⟩ => denied left (told.unique admitted)⟩
  rw [serve_of_valid (o := ⟨stamp, tenant, agent, q⟩) valid]
  dsimp only
  cases answer : (v.charge tenant).1 with
  | error e =>
      rw [answer] at told stops
      cases e with
      | unavailable reason detail =>
          exact ends_of_refused own (stops nofun) (Nat.le_refl _) (.unavailable told)
      | invalid detail =>
          exact ends_of_refused own (stops nofun) (Nat.le_refl _) (.misconfigured told)
  | ok verdict =>
      rw [answer] at told stops
      cases verdict with
      | admitted left =>
          exact ends_of_admitted own names asks told (reaches.next ⟨left, told⟩ rfl)
      | denied wait =>
          exact ends_of_refused own (stops nofun) (Nat.le_refl _) (.denied told)

/-- The gates of the request's own rules. -/
theorem ends_of_order (own : v.From tenant) (names : v.Names agent) (asks : v.Asks q)
    (reaches : v.Reaches .prompt) :
    v.Ends stamp exchanges records (v.serve ⟨stamp, tenant, agent, q⟩ exchanges records) := by
  have refused : ∀ {gate e}, q.check v.setup.settings = .error e → v.Stops gate →
      gate.place < Gate.limit.place → v.Refusal gate (.ofFault e) →
      v.Ends stamp exchanges records (v.serve ⟨stamp, tenant, agent, q⟩ exchanges records) := by
    intro gate e broken stops early refusal
    rw [serve_of_invalid (o := ⟨stamp, tenant, agent, q⟩) broken]
    exact .uncharged stops early refusal
  by_cases prompt : q.PromptFits v.setup.settings
  case neg =>
    exact refused (Execution.Request.check_of_prompt prompt)
      ⟨reaches, asks.not_exists prompt⟩ (by decide) (.prompt asks)
  have reaches : v.Reaches .model := reaches.next ⟨q, asks, prompt⟩ rfl
  by_cases model : q.model ∈ v.setup.settings.allowedModels
  case neg =>
    exact refused (Execution.Request.check_of_model prompt model)
      ⟨reaches, asks.not_exists model⟩ (by decide) (.model asks)
  have reaches : v.Reaches .temperature := reaches.next ⟨q, asks, model⟩ rfl
  by_cases temperature : q.TemperatureInRange
  case neg =>
    exact refused (Execution.Request.check_of_temperature prompt model temperature)
      ⟨reaches, asks.not_exists temperature⟩ (by decide) (.temperature asks)
  have reaches : v.Reaches .tokens := reaches.next ⟨q, asks, temperature⟩ rfl
  by_cases tokens : q.TokensInRange
  case neg =>
    obtain ⟨n, named, broken⟩ :=
      Execution.Request.check_of_tokens prompt model temperature tokens
    exact refused broken ⟨reaches, asks.not_exists tokens⟩ (by decide) (.tokens asks named)
  have reaches : v.Reaches .limit := reaches.next ⟨q, asks, tokens⟩ rfl
  exact ends_of_valid own names asks
    (Execution.Request.check_eq_ok prompt model temperature tokens) reaches

/-- The gates of the path and of the body. -/
theorem ends_of_tenant (own : v.From tenant) (reaches : v.Reaches .agent) :
    v.Ends stamp exchanges records
      ((v.gateway exchanges records).run stamp tenant v.segment v.request) := by
  unfold Gateway.run
  cases decoded : Text.Percent.decodeText? v.segment with
  | none =>
      refine .uncharged ⟨reaches, ?_⟩ (by decide) (.unreadable decoded)
      rintro ⟨agent, text, decoded', -⟩
      cases decoded.symm.trans decoded'
  | some text =>
      dsimp only
      unfold task
      cases parsed : Uuid.ofText? text with
      | none =>
          refine .uncharged ⟨reaches, ?_⟩ (by decide) (.agent decoded)
          rintro ⟨agent, text', decoded', parsed'⟩
          rw [← Option.some.inj (decoded.symm.trans decoded'), parsed] at parsed'
          cases parsed'
      | some agent =>
          have names : v.Names agent := ⟨text, decoded, parsed⟩
          have reaches : v.Reaches .body := reaches.next ⟨agent, names⟩ rfl
          dsimp only
          cases asked : Body.read v.request with
          | error e =>
              refine .uncharged ⟨reaches, ?_⟩ (by decide) (.body asked)
              rintro ⟨q, asks⟩
              cases asked.symm.trans asks
          | ok q => exact ends_of_order own names asked (reaches.next ⟨q, asked⟩ rfl)

theorem carries_iff {key : String} :
    (v.request.visibleHeader? "x-api-key").filter (· ≠ "") = some key ↔ v.Carries key := by
  unfold Http.Request.visibleHeader? Carries
  rw [Option.filter_eq_some_iff, Option.filter_eq_some_iff, and_assoc, decide_eq_true_eq]

/-- All the gates. -/
theorem ends (v : Visit σ) (stamp : Stamp) (exchanges : List Exchange) (records : List Record) :
    v.Ends stamp exchanges records ((v.gateway exchanges records).handle stamp v.request) := by
  have routed : Route.ofPath? v.request.path = some (.run v.segment) := by
    rw [v.path, Route.ofPath?_run v.whole, String.ofList_toList]
  have handled : (v.gateway exchanges records).handle stamp v.request
      = (v.gateway exchanges records).answer stamp (.run v.segment) v.request := by
    have answers : Route.answers v.request.method (.run v.segment) = true :=
      decide_eq_true v.posted
    have full : v.request.method ≠ "HEAD" := by
      rw [v.posted]
      decide
    unfold Gateway.handle
    rw [routed]
    dsimp only
    rw [if_pos answers, if_neg full]
  rw [handled]
  unfold Gateway.answer authenticate
  rw [if_neg nofun]
  cases carried : (v.request.visibleHeader? "x-api-key").filter (· ≠ "") with
  | none =>
      refine .uncharged ⟨reaches_key, ?_⟩ (by decide) .key
      rintro ⟨key, carries⟩
      cases carried.symm.trans (carries_iff.2 carries)
  | some key =>
      have carries : v.Carries key := carries_iff.1 carried
      have reaches : v.Reaches .tenant := reaches_key.next ⟨key, carries⟩ rfl
      have keys : (v.gateway exchanges records).keys = v.keys := rfl
      dsimp only
      rw [keys]
      unfold Keys.resolve
      cases known : v.keys.table.get? key with
      | none =>
          refine .uncharged ⟨reaches, ?_⟩ (by decide) .tenant
          rintro ⟨tenant, key', carries', known'⟩
          rw [← carries.unique carries', known] at known'
          cases known'
      | some tenant =>
          have own : v.From tenant := ⟨key, carries, known⟩
          exact ends_of_tenant own (reaches.next ⟨tenant, own⟩ rfl)

end

end Visit

-- ============================================================ the theorem

/-- What is answered to a visit, and what it changes. -/
structure Gated (v : Visit σ) (stamp : Stamp) (exchanges : List Exchange)
    (records : List Record) (answered : Response × Gateway (σ × List Exchange)) : Prop where
  decided : (∃ gate, v.Stops gate) ∨ ∀ gate, v.Passes gate
  /-- The first gate that is not passed makes the response. -/
  refused : ∀ gate, v.Stops gate →
    v.Refusal gate answered.1 ∧ answered.1.status ∈ gate.statuses
      ∧ ∀ code ∈ gate.code?, ∃ e, answered.1 = .ofFault e ∧ e.code = code
  served : (∀ gate, v.Passes gate) → answered.1.status = 200
  /-- The backend is called once if the limiter is reached. -/
  asked : v.Reaches .limit → ∃ tenant, v.From tenant
    ∧ answered.2.service.limiter.store = ((v.charge tenant).2, exchanges ++
      [.check (.ofTenant tenant) v.setup.quota.limit v.setup.quota.seconds (v.charge tenant).1])
  unasked : ¬ v.Reaches .limit → answered.2 = v.gateway exchanges records
  /-- What is executed is recorded, and nothing else. -/
  logged : answered.1.status = 200 → ∃ tenant agent q a,
    v.From tenant ∧ v.Names agent ∧ v.Asks q ∧ v.setup.agents.find tenant agent = .ok a
      ∧ answered.2.service.history.records
        = records ++ [Order.record a ⟨stamp, tenant, agent, q⟩]
  unlogged : answered.1.status ≠ 200 → answered.2.service.history.records = records
  /-- Who is told of a bad request, or of no such key, has changed
  nothing. -/
  unmoved : answered.1.status = 400 ∨ answered.1.status = 401 →
    answered.2 = v.gateway exchanges records

section

variable {v : Visit σ} {stamp : Stamp} {exchanges : List Exchange} {records : List Record}

theorem Visit.Stops.refused {gate : Gate} {response : Response} (h : v.Stops gate)
    (refusal : v.Refusal gate response) (gate' : Gate) (stops : v.Stops gate') :
    v.Refusal gate' response ∧ response.status ∈ gate'.statuses
      ∧ ∀ code ∈ gate'.code?, ∃ e, response = .ofFault e ∧ e.code = code := by
  obtain rfl := h.unique stops
  exact ⟨refusal, refusal.status_mem, refusal.code⟩

end

/-- Every run at every gateway, whatever its backend answers, is decided
by the first gate that it does not pass, and no gate after that one has
any effect. -/
theorem handle_gated (v : Visit σ) (stamp : Stamp) (exchanges : List Exchange)
    (records : List Record) :
    Gated v stamp exchanges records ((v.gateway exchanges records).handle stamp v.request) := by
  have ends := v.ends stamp exchanges records
  generalize (v.gateway exchanges records).handle stamp v.request = answered at ends ⊢
  cases ends with
  | uncharged stops early refusal =>
      exact {
        decided := .inl ⟨_, stops⟩
        refused := stops.refused refusal
        served := fun passes => absurd (passes _) stops.2
        asked := fun reaches => absurd (reaches _ early) stops.2
        unasked := fun _ => rfl
        logged := fun served => absurd served refusal.status_ne
        unlogged := fun _ => rfl
        unmoved := fun _ => rfl }
  | charged own stops late refusal =>
      have reaches : v.Reaches .limit := fun earlier before =>
        stops.1 earlier (Nat.lt_of_lt_of_le before late)
      have status := refusal.status_of_late late
      exact {
        decided := .inl ⟨_, stops⟩
        refused := stops.refused refusal
        served := fun passes => absurd (passes _) stops.2
        asked := fun _ => ⟨_, own, rfl⟩
        unasked := fun unreached => absurd reaches unreached
        logged := fun served => absurd served refusal.status_ne
        unlogged := fun _ => rfl
        unmoved := fun told => (told.elim status.1 status.2).elim }
  | run own names asks admitted owned passes =>
      exact {
        decided := .inr passes
        refused := fun gate stops => absurd (passes gate) stops.2
        served := fun _ => rfl
        asked := fun _ => ⟨_, own, rfl⟩
        unasked := fun unreached => absurd (fun earlier _ => passes earlier) unreached
        logged := fun _ => ⟨_, _, _, _, own, names, asks, owned, rfl⟩
        unlogged := fun unserved => absurd rfl unserved
        unmoved := nofun }

/-- A request with three faults, an unsupported model, too high a
temperature and an agent that nobody owns, is told of the model, and the
one request a minute that there is room for is not spent. -/
theorem handle_gated_of_unsupported_model :
    let segment := "00000000-0000-0000-0000-000000000003"
    let r : Http.Request :=
      ⟨"POST", "/api/v1/agents/" ++ segment ++ "/run?again",
        [("X-Api-Key", "a"), ("content-type", "application/json")],
        "\x7b\"prompt\":\"hello\",\"model\":\"none\",\"temperature\":9\x7d".toUTF8.toList⟩
    let v : Visit Limit.Memory :=
      { setup := ⟨Limit.Memory.backend, ⟨1, 60, by decide, by decide⟩, .empty, .default⟩
        keys := .ofList [("a", .ofNat 1)]
        name := "gateway"
        store := .start 0
        segment
        request := r
        posted := rfl
        path := by decide +kernel
        whole := by decide +kernel }
    let answered := (v.gateway [] []).handle ⟨"1", "now"⟩ r
    v.Stops .model ∧ v.Refusal .model answered.1 ∧ answered.1.status = 400
      ∧ answered.2 = v.gateway [] [] := by
  intro segment r v answered
  have carries : v.Carries "a" := by
    refine ⟨?_, ?_, ?_⟩
    · decide +kernel
    · decide +kernel
    · decide
  have own : v.From (.ofNat 1) := ⟨"a", carries, by decide +kernel⟩
  have names : v.Names (.ofNat 3) := ⟨segment, by decide +kernel, by decide +kernel⟩
  have read : (Body.read r).toOption.map (fun q => (q.prompt, q.model))
      = some ("hello", "none") := by
    decide +kernel
  obtain ⟨q, asks, same⟩ : ∃ q, v.Asks q ∧ (q.prompt, q.model) = ("hello", "none") := by
    cases asked : Body.read r with
    | error e =>
        rw [asked] at read
        cases read
    | ok q =>
        rw [asked] at read
        exact ⟨q, asked, Option.some.inj read⟩
  obtain ⟨prompt, model⟩ := Prod.mk.inj same
  have fits : q.PromptFits v.setup.settings := by
    unfold Execution.Request.PromptFits
    rw [prompt]
    decide
  have reaches : v.Reaches .tenant := Visit.reaches_key.next ⟨_, carries⟩ rfl
  have reaches : v.Reaches .agent := reaches.next ⟨_, own⟩ rfl
  have reaches : v.Reaches .body := reaches.next ⟨_, names⟩ rfl
  have reaches : v.Reaches .prompt := reaches.next ⟨q, asks⟩ rfl
  have reaches : v.Reaches .model := reaches.next ⟨q, asks, fits⟩ rfl
  have unsupported : q.model ∉ v.setup.settings.allowedModels := by
    rw [model]
    decide
  have stops : v.Stops .model := ⟨reaches, asks.not_exists unsupported⟩
  have gated := handle_gated v ⟨"1", "now"⟩ [] []
  obtain ⟨refusal, status, -⟩ := gated.refused .model stops
  have bad : answered.1.status = 400 := List.mem_singleton.1 status
  exact ⟨stops, refusal, bad, gated.unmoved (.inl bad)⟩

end TenantGate.Gateway
