/-
Charges, executions and records stay in step.

# Every order

A service over any place of the windows is watched while it serves: each
call and its answer are written down. `InStep` says what one order does,
from wherever a run of orders has led. A request that breaks a rule costs
nothing and leaves nothing. Any other costs one check, under the key of
its tenant, and what comes of the order is decided by the answer: a
refusal and a fault are told as what they are, and after an admission the
agent is executed for the tenant that owns it. What is executed is
recorded, and nothing else is.

# Every run

Over a run the books balance (`Balanced`). There has been one check for
each order whose request kept the rules, and no other call. A record is
the outcome of an order of its tenant, and every admission of a tenant was
spent once: on a record, or on an agent that the tenant does not own.
`serveAll_in_step` has both, from the start of a service on.
-/
import TenantGate.Proofs.Execution.Orders
import TenantGate.Proofs.Limit.Deployment

namespace TenantGate.Limit

open Window (Verdict)

/-- A call of a backend with its answer. -/
inductive Exchange where
  | check (key : Key) (limit seconds : Nat) (answer : Except Error Verdict)
  | peek (key : Key) (limit seconds : Nat) (answer : Except Error Nat)
  | close

namespace Exchange

def call : Exchange → Call
  | check key limit seconds _ => .check key limit seconds
  | peek key limit seconds _ => .peek key limit seconds
  | close => .close

/-- Is it an admission under this key? -/
def admits (key : Key) : Exchange → Bool
  | check k _ _ (.ok (.admitted _)) => k = key
  | _ => false

end Exchange

theorem Exchange.admits_ofTenant (payer tenant : Uuid) (limit seconds left : Nat) :
    (check (.ofTenant payer) limit seconds (.ok (.admitted left))).admits (.ofTenant tenant)
      = decide (payer = tenant) := by
  unfold admits
  rw [decide_eq_decide]
  exact Key.ofTenant_injective.eq_iff

/-- The same backend with the list of its exchanges, in order. -/
def Backend.transcribed {σ : Type} (b : Backend σ) : Backend (σ × List Exchange) where
  check key limit seconds s :=
    let (r, store) := b.check key limit seconds s.1
    (r, store, s.2 ++ [.check key limit seconds r])
  peek key limit seconds s :=
    let (r, store) := b.peek key limit seconds s.1
    (r, store, s.2 ++ [.peek key limit seconds r])
  close s := (b.close s.1, s.2 ++ [.close])

end TenantGate.Limit

namespace TenantGate.Execution

open Directory (Agents)
open Limit (Error Exchange Key)
open Window (Verdict)

variable {σ : Type}

/-- Does the request keep the rules? -/
def Order.valid (settings : Settings) (o : Order) : Bool := (o.request.check settings).isOk

theorem Order.valid_iff {settings : Settings} {o : Order} :
    o.valid settings = true ↔ o.request.check settings = .ok () := by
  unfold Order.valid
  cases o.request.check settings with
  | error e => exact ⟨nofun, nofun⟩
  | ok u => exact ⟨fun _ => rfl, fun _ => rfl⟩

/-- The orders of a run with their results, and the service after it. -/
def Service.serveAll :
    List Order → Service σ → List (Order × Except Fault Outcome) × Service σ
  | [], s => ([], s)
  | o :: orders, s =>
      let (result, s) := s.serve o
      let (done, s) := serveAll orders s
      ((o, result) :: done, s)

theorem Service.serveAll_cons (o : Order) (orders : List Order) (s : Service σ) :
    s.serveAll (o :: orders)
      = ((o, (s.serve o).1) :: ((s.serve o).2.serveAll orders).1,
        ((s.serve o).2.serveAll orders).2) := rfl

namespace Setup

/-- The same setup with the exchanges of the backend written down. -/
def transcribed (d : Setup σ) : Setup (σ × List Exchange) :=
  ⟨d.backend.transcribed, d.quota, d.agents, d.settings⟩

/-- The exchanges of an order. -/
def fees (o : Order) (store : σ) (d : Setup σ) : List Exchange :=
  if o.valid d.settings then
    [.check (.ofTenant o.tenant) d.quota.limit d.quota.seconds (d.charge o store).1]
  else []

variable {d : Setup σ} {o : Order}

theorem result_of_valid (valid : o.valid d.settings = true) (store : σ) :
    d.result o store = d.fate o (d.charge o store).1 := by
  unfold result
  rw [Order.valid_iff.1 valid]

theorem result_transcribed (o : Order) (store : σ) (exchanges : List Exchange) :
    d.transcribed.result o (store, exchanges) = d.result o store := by
  have settings : d.transcribed.settings = d.settings := rfl
  unfold result
  rw [settings]
  cases o.request.check d.settings with
  | error e => rfl
  | ok u => rfl

theorem remains_transcribed (o : Order) (store : σ) (exchanges : List Exchange) :
    d.transcribed.remains o (store, exchanges)
      = (d.remains o store, exchanges ++ d.fees o store) := by
  have settings : d.transcribed.settings = d.settings := rfl
  unfold remains fees Order.valid
  rw [settings]
  cases o.request.check d.settings with
  | error e =>
      show _ = (store, exchanges ++ [])
      rw [List.append_nil]
  | ok u => rfl

theorem serve_transcribed (o : Order) (store : σ) (exchanges : List Exchange)
    (records : List Record) :
    (d.transcribed.service (store, exchanges) records).serve o
      = (d.result o store,
        d.transcribed.service (d.remains o store, exchanges ++ d.fees o store)
          (records ++ recorded (d.result o store))) := by
  rw [serve_service, result_transcribed, remains_transcribed]

end Setup

-- ========================================================== every order

/-- What one order does to a service that is watched. -/
structure InStep (d : Setup σ) (s : Service (σ × List Exchange)) (o : Order) : Prop where
  /-- An order costs one check if its request keeps the rules. -/
  charged : (s.serve o).2.limiter.store.2 = s.limiter.store.2
    ++ if o.valid d.settings then
        [.check (.ofTenant o.tenant) d.quota.limit d.quota.seconds
          (d.charge o s.limiter.store.1).1]
      else []
  invalid : ∀ e, o.request.check d.settings = .error e → s.serve o = (.error e, s)
  executed : ∀ out, (s.serve o).1 = .ok out ↔
    o.valid d.settings = true
      ∧ ∃ left a, (d.charge o s.limiter.store.1).1 = .ok (.admitted left)
        ∧ d.agents.table.get? o.agent = some a ∧ a.tenant = o.tenant
        ∧ out = o.outcome a left
  denied : ∀ wait, o.valid d.settings = true →
    (d.charge o s.limiter.store.1).1 = .ok (.denied wait) →
      (s.serve o).1 = .error (.rateLimitExceeded wait d.quota.limit d.quota.seconds)
  unavailable : ∀ reason detail, o.valid d.settings = true →
    (d.charge o s.limiter.store.1).1 = .error (.unavailable reason detail) →
      (s.serve o).1 = .error
        (.serviceUnavailable reason "Rate limiting service temporarily unavailable")
  misconfigured : ∀ detail, o.valid d.settings = true →
    (d.charge o s.limiter.store.1).1 = .error (.invalid detail) →
      (s.serve o).1 = .error (.config detail)
  /-- Who is admitted but does not own such an agent has paid for that
  answer. -/
  missing : ∀ left, o.valid d.settings = true →
    (d.charge o s.limiter.store.1).1 = .ok (.admitted left) →
    (∀ a, d.agents.table.get? o.agent = some a → a.tenant ≠ o.tenant) →
      (s.serve o).1 = .error (Agents.missing o.agent)
  /-- What is executed is recorded, and nothing else. -/
  logged : (s.serve o).2.history.records = s.history.records
    ++ match (s.serve o).1 with
      | .ok out => [out.record]
      | .error _ => []

theorem inStep_transcribed (d : Setup σ) (o : Order) (store : σ) (exchanges : List Exchange)
    (records : List Record) :
    InStep d (d.transcribed.service (store, exchanges) records) o := by
  have served := d.serve_transcribed o store exchanges records
  have fated : ∀ {answer}, o.valid d.settings = true → (d.charge o store).1 = answer →
      ((d.transcribed.service (store, exchanges) records).serve o).1 = d.fate o answer := by
    intro answer valid answered
    rw [served, ← answered]
    exact d.result_of_valid valid store
  constructor
  case charged =>
    rw [served]
    rfl
  case invalid =>
    intro e invalid
    have costless : d.fees o store = [] := by
      unfold Setup.fees Order.valid
      rw [invalid]
      rfl
    have unserved : d.result o store = .error e ∧ d.remains o store = store := by
      unfold Setup.result Setup.remains
      rw [invalid]
      exact ⟨rfl, rfl⟩
    rw [served, costless, unserved.1, unserved.2, recorded, List.append_nil, List.append_nil]
  case executed =>
    intro out
    rw [served, Order.valid_iff]
    refine Setup.result_ok_iff.trans (and_congr_right fun _ => ?_)
    refine exists_congr fun left => exists_congr fun a => and_congr_right fun _ => ?_
    rw [Agents.find_eq_ok_iff, and_assoc]
  case denied => exact fun wait valid denied => fated valid denied
  case unavailable => exact fun reason detail valid failed => fated valid failed
  case misconfigured => exact fun detail valid failed => fated valid failed
  case missing =>
    intro left valid admitted unowned
    rw [fated valid admitted]
    unfold Setup.fate
    dsimp only
    rw [Agents.find_of_unowned unowned]
  case logged =>
    rw [served]
    rfl

-- ============================================================ the books

/-- What the orders of a tenant came to. -/
def resultsOf (tenant : Uuid) (done : List (Order × Except Fault Outcome)) :
    List (Except Fault Outcome) :=
  (done.filter (·.1.tenant = tenant)).map Prod.snd

/-- Was there no such agent? -/
def unfound : Except Fault Outcome → Bool
  | .error (.notFound ..) => true
  | _ => false

/-- The exchanges of a run against its results. -/
structure Balanced (d : Setup σ) (orders : List Order)
    (done : List (Order × Except Fault Outcome)) (exchanges : List Exchange) : Prop where
  served : done.map Prod.fst = orders
  /-- One check for each order whose request keeps the rules, no other
  call. -/
  calls : exchanges.map Exchange.call = (orders.filter (·.valid d.settings)).map
    fun o => .check (.ofTenant o.tenant) d.quota.limit d.quota.seconds
  /-- A tenant's records are the outcomes of its orders. -/
  owners : ∀ tenant, owned tenant (done.flatMap fun x => recorded x.2)
    = (resultsOf tenant done).flatMap recorded
  /-- Every admission was spent, on a record or on a missing agent. -/
  spent : ∀ tenant, exchanges.countP (·.admits (.ofTenant tenant))
    = ((resultsOf tenant done).flatMap recorded).length
      + (resultsOf tenant done).countP unfound

theorem unfound_of_invalid {r : Request} {settings : Settings} {e : Fault}
    (invalid : r.check settings = .error e) : unfound (.error e) = false := by
  unfold Request.check at invalid
  repeat' split at invalid
  all_goals cases invalid
  all_goals rfl

/-- An admission is spent once. -/
theorem spent_of_admitted (d : Setup σ) (o : Order) (left : Nat) :
    (recorded (d.fate o (.ok (.admitted left)))).length
      + [d.fate o (.ok (.admitted left))].countP unfound = 1 := by
  unfold Setup.fate
  dsimp only
  by_cases owned : ∃ a, d.agents.table.get? o.agent = some a ∧ a.tenant = o.tenant
  · obtain ⟨a, found⟩ := owned
    rw [Agents.find_eq_ok_iff.2 found]
    rfl
  · rw [Agents.find_of_unowned fun a found own => owned ⟨a, found, own⟩]
    rfl

theorem countP_admits_fees (tenant : Uuid) (d : Setup σ) (o : Order) (store : σ) :
    (d.fees o store).countP (·.admits (.ofTenant tenant))
      = if o.tenant = tenant then
          (recorded (d.result o store)).length + [d.result o store].countP unfound
        else 0 := by
  unfold Setup.fees
  cases checked : o.request.check d.settings with
  | error e =>
      have invalid : ¬ o.valid d.settings = true := fun valid => by
        rw [Order.valid_iff.1 valid] at checked
        cases checked
      have refused : d.result o store = .error e := by
        unfold Setup.result
        rw [checked]
      rw [if_neg invalid, refused, List.countP_singleton, unfound_of_invalid checked]
      split
      next => rfl
      next => rfl
  | ok u =>
      have valid := Order.valid_iff.2 checked
      rw [if_pos valid, d.result_of_valid valid]
      rcases (d.charge o store).1 with e | left | wait
      · have unspent : (recorded (d.fate o (.error e))).length
            + [d.fate o (.error e)].countP unfound = 0 := by
          cases e with
          | _ => rfl
        rw [unspent]
        split
        next => rfl
        next => rfl
      · rw [spent_of_admitted, List.countP_singleton, Exchange.admits_ofTenant]
        simp only [decide_eq_true_eq]
      · split
        next => rfl
        next => rfl

theorem resultsOf_cons (tenant : Uuid) (o : Order) (r : Except Fault Outcome)
    (done : List (Order × Except Fault Outcome)) :
    resultsOf tenant ((o, r) :: done)
      = (if o.tenant = tenant then [r] else []) ++ resultsOf tenant done := by
  by_cases own : o.tenant = tenant
  · rw [if_pos own]
    exact congrArg (List.map Prod.snd) (List.filter_cons_of_pos (decide_eq_true own))
  · rw [if_neg own]
    exact congrArg (List.map Prod.snd)
      (List.filter_cons_of_neg fun theirs => own (of_decide_eq_true theirs))

theorem Balanced.nil (d : Setup σ) : Balanced d [] [] [] :=
  ⟨rfl, rfl, fun _ => rfl, fun _ => rfl⟩

theorem Balanced.cons {d : Setup σ} {orders : List Order}
    {done : List (Order × Except Fault Outcome)} {exchanges : List Exchange}
    (h : Balanced d orders done exchanges) (o : Order) (store : σ) :
    Balanced d (o :: orders) ((o, d.result o store) :: done)
      (d.fees o store ++ exchanges) := by
  constructor
  case served => exact congrArg (o :: ·) h.served
  case calls =>
    unfold Setup.fees
    by_cases valid : o.valid d.settings = true
    · rw [if_pos valid, List.filter_cons_of_pos valid, List.map_append, h.calls]
      rfl
    · rw [if_neg valid, List.filter_cons_of_neg valid, List.nil_append, h.calls]
  case owners =>
    intro tenant
    rw [List.flatMap_cons, owned_append, h.owners, Setup.owned_recorded, resultsOf_cons,
      List.flatMap_append]
    split
    next => rw [List.flatMap_singleton]
    next => rfl
  case spent =>
    intro tenant
    rw [List.countP_append, h.spent, countP_admits_fees, resultsOf_cons, List.flatMap_append,
      List.length_append, List.countP_append]
    split
    next =>
      rw [List.flatMap_singleton]
      omega
    next =>
      show 0 + _ = (0 + _) + (0 + _)
      omega

-- ============================================================ every run

theorem serveAll_transcribed (d : Setup σ) (orders : List Order) (store : σ)
    (exchanges : List Exchange) (records : List Record) :
    let run := (d.transcribed.service (store, exchanges) records).serveAll orders
    ∃ store' more,
      run.2 = d.transcribed.service (store', exchanges ++ more)
          (records ++ run.1.flatMap fun x => recorded x.2)
        ∧ Balanced d orders run.1 more := by
  -- the rest of a run starts from what its first order leaves
  induction orders generalizing store exchanges records with
  | nil =>
      refine ⟨store, [], ?_, .nil d⟩
      show d.transcribed.service (store, exchanges) records
        = d.transcribed.service (store, exchanges ++ []) (records ++ [])
      rw [List.append_nil, List.append_nil]
  | cons o orders ih =>
      intro run
      obtain ⟨store', more, after, balanced⟩ := ih (d.remains o store)
        (exchanges ++ d.fees o store) (records ++ recorded (d.result o store))
      have ran := Service.serveAll_cons o orders
        (d.transcribed.service (store, exchanges) records)
      rw [d.serve_transcribed] at ran
      have ran : run = _ := ran
      refine ⟨store', d.fees o store ++ more, ?_, ?_⟩
      · rw [ran, after, List.flatMap_cons, List.append_assoc, List.append_assoc]
      · rw [ran]
        exact balanced.cons o store

/-- A service from its start, after any run of orders: its books balance,
a tenant is shown the outcomes of its own orders, newest first, and the
next order is in step. -/
theorem serveAll_in_step (d : Setup σ) (store : σ) (orders : List Order) :
    let run := (d.transcribed.service (store, []) []).serveAll orders
    Balanced d orders run.1 run.2.limiter.store.2
      ∧ run.2.history.records = (run.1.flatMap fun x => recorded x.2)
      ∧ (∀ tenant limit offset, ∃ p, run.2.page tenant limit offset = .ok p
        ∧ p.total = ((resultsOf tenant run.1).flatMap recorded).length
        ∧ p.items
          = (((resultsOf tenant run.1).flatMap recorded).reverse.drop offset).take limit)
      ∧ ∀ o, InStep d run.2 o := by
  intro run
  obtain ⟨store', exchanges, after, balanced⟩ := serveAll_transcribed d orders store [] []
  have after : run.2 = d.transcribed.service (store', exchanges)
    (run.1.flatMap fun x => recorded x.2) := after
  rw [after]
  refine ⟨balanced, rfl, fun tenant limit offset => ?_, fun o => ?_⟩
  · have mine := ofTenant_eq_reverse_owned tenant (run.1.flatMap fun x => recorded x.2) none
    rw [balanced.owners] at mine
    refine ⟨History.page tenant limit offset ⟨_, none⟩, rfl, ?_, ?_⟩
    · show (History.ofTenant tenant _).length = _
      rw [mine, List.length_reverse]
    · show ((History.ofTenant tenant _).drop offset).take limit = _
      rw [mine]
  · exact inStep_transcribed d o _ _ _

end TenantGate.Execution
