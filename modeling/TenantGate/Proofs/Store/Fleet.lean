/-
A fleet: any number of callers over one store.

Each instance has a connection of its own, or none. Between calls time
passes, instances connect, and the store changes how it behaves: it may
refuse connections, and it may fail at a greeting, at a ping and at a
script, each in any way, at any time. The one thing that is excluded is
a made-up reply to a script (`Upkeep.Honest`), for such a reply may say
whatever it likes about a window.

`Follows` says that the sets of the store track ledgers. No upkeep
disturbs it, and a call that does not get through does not either. A
call that gets through is a check of a ledger, or a count on one: its
answer is what arrives of the ledger's answer, but for the wait where a
script cannot count so far (`check_of_executes`, `peek_of_executes`). So
runs of limiters in a fleet are booked
(`booked_run`), though an admission may be booked of which its caller
never hears, when the number that comes with it does not fit.
-/
import TenantGate.Proofs.Limit.Deployment
import TenantGate.Proofs.Store.Calls

namespace TenantGate.Store

open Function (update update_self)
open Limit (Deployment Error Key Quota)
open Window (Ledger Verdict)

/-- The instances by number, and the store that they share. -/
structure Fleet where
  clients : Nat → Client
  server : Server

namespace Fleet

def start (micros : Nat) : Fleet := ⟨fun _ => .start, .start micros⟩

/-- What an instance sees. -/
def view (i : Nat) (f : Fleet) : Client × Server := (f.clients i, f.server)

/-- What an instance leaves. -/
def put (i : Nat) (f : Fleet) (seen : Client × Server) : Fleet :=
  ⟨update f.clients i seen.1, seen.2⟩

def backend (i : Nat) : Limit.Backend Fleet := Client.backend.lift (view i) (put i)

/-- Would a call of this instance get through now? -/
def executes (f : Fleet) (i : Nat) : Bool := (f.clients i).executes f.server

/-- The fleet after another number of connections. -/
def counting (n : Nat) (f : Fleet) : Fleet :=
  { f with server := { f.server with accepted := n } }

/-- What a fleet goes through besides the calls. -/
inductive Upkeep where
  | advance (micros : Nat)
  | connect (i : Nat)
  | reachable (accepts : Bool)
  | greeting (b : Behaviour)
  | ping (b : Behaviour)
  | script (b : Behaviour)

namespace Upkeep

def apply : Upkeep → Fleet → Fleet
  | advance micros, f => { f with server := f.server.advance micros }
  | connect i, f => f.put i ((f.clients i).connect f.server).2
  | reachable accepts, f => { f with server := { f.server with reachable := accepts } }
  | greeting b, f => { f with server := { f.server with greeting := b } }
  | ping b, f => { f with server := { f.server with ping := b } }
  | script b, f => { f with server := { f.server with script := b } }

/-- The store is not told to make up replies to scripts. -/
def Honest : Upkeep → Prop
  | script (.reply _) => False
  | _ => True

end Upkeep

-- ================================================================ calls

/-- A script call of an instance. -/
def call {α : Type} (i : Nat) (run : SortedSets → Reply × SortedSets)
    (decode : Reply → Option α) (f : Fleet) : Except Error α × Fleet :=
  let (r, seen) := (f.clients i).call run decode f.server
  (r, f.put i seen)

theorem check_eq (i : Nat) (key : Key) (limit seconds : Nat) (f : Fleet) :
    (backend i).check key limit seconds f
      = f.call i (Script.consume key.text limit seconds) Client.verdict? := rfl

theorem peek_eq (i : Nat) (key : Key) (limit seconds : Nat) (f : Fleet) :
    (backend i).peek key limit seconds f
      = f.call i (Script.remaining key.text limit seconds) Client.count? := rfl

theorem clients_put (i : Nat) (f : Fleet) (c : Client) (s : Server) :
    (f.put i (c, s)).clients i = c := by
  unfold put
  exact update_self i c f.clients

section

variable {α : Type} (run : SortedSets → Reply × SortedSets) (decode : Reply → Option α)
  {f : Fleet} {i : Nat}

theorem call_of_executes (through : f.executes i = true) :
    ∃ n, f.call i run decode
      = (Client.answer (decode (run f.server.sets).1),
        f.put i (⟨true⟩, { f.server with sets := (run f.server.sets).2, accepted := n })) := by
  obtain ⟨n, called⟩ := Client.call_of_executes run decode through
  refine ⟨n, ?_⟩
  unfold call
  rw [called]

theorem call_of_not_executes (honest : f.server.Honest) (fails : f.executes i = false) :
    ∃ (e : Error) (c : Client) (n : Nat), e.isUnavailable = true
      ∧ f.call i run decode = (.error e, f.put i (c, { f.server with accepted := n })) := by
  obtain ⟨e, c, n, unavailable, called⟩ := Client.call_of_not_executes run decode honest fails
  refine ⟨e, c, n, unavailable, ?_⟩
  unfold call
  rw [called]

/-- A call does not depend on how many connections there were. -/
theorem call_counting (n : Nat) (f : Fleet) (i : Nat) :
    ∃ m, (f.counting n).call i run decode
      = ((f.call i run decode).1, (f.call i run decode).2.counting m) := by
  obtain ⟨m, called⟩ := Client.call_accepted run decode (f.clients i) f.server n
  have left := congrArg (fun r => (r.1, f.put i r.2)) called
  exact ⟨m, left⟩

end

-- ========================================================== the relation

/-- The sets of the store track ledgers for windows of `seconds`, and the
store does not make up replies to scripts. -/
structure Follows (seconds : Nat) (ledgers : Key → Ledger) (f : Fleet) : Prop where
  sets : f.server.sets.Tracks seconds ledgers
  honest : f.server.Honest

namespace Follows

variable {seconds : Nat} {ledgers : Key → Ledger} {f : Fleet}

theorem start (seconds micros : Nat) : (Fleet.start micros).Follows seconds fun _ => .empty :=
  ⟨.start seconds micros, nofun⟩

theorem accepted (h : f.Follows seconds ledgers) {f' : Fleet} {n : Nat}
    (server : f'.server = { f.server with accepted := n }) : f'.Follows seconds ledgers := by
  obtain ⟨sets, honest⟩ := h
  constructor
  · rw [server]
    exact sets
  · rw [server]
    exact honest

theorem upkeep (h : f.Follows seconds ledgers) {e : Upkeep} (honest : e.Honest) :
    (e.apply f).Follows seconds ledgers := by
  cases e with
  | advance micros => exact ⟨h.sets.advance micros, h.honest⟩
  | connect i =>
      obtain ⟨n, server⟩ := Client.connect_server (f.clients i) f.server
      exact h.accepted server
  | reachable | greeting | ping => exact ⟨h.sets, h.honest⟩
  | script b =>
      refine ⟨h.sets, fun r e => ?_⟩
      have forged : b = .reply r := e
      subst forged
      exact honest

/-- A check that gets through is one of the key's ledger, and the caller
hears what arrives of a verdict that admits where the ledger does: of the
ledger's own, as far as a script can count. -/
theorem check_of_executes (h : f.Follows seconds ledgers) {i : Nat}
    (through : f.executes i = true) (key : Key) (limit : Nat) :
    let now := f.server.sets.now
    let check := (ledgers key).check now limit (seconds * 1000) seconds
    (∃ v, ((backend i).check key limit seconds f).1
          = Client.answer (Client.verdict? (replyOf v))
        ∧ v.allowed = check.1.allowed
        ∧ (now + seconds * 1000 ≤ Double.exact → v = check.1))
      ∧ ((backend i).check key limit seconds f).2.Follows seconds
          (update ledgers key check.2)
      ∧ ((backend i).check key limit seconds f).2.server.sets.now = now := by
  intro now check
  obtain ⟨⟨v, reply, allowed, exact⟩, tracks⟩ := h.sets.consume key limit
  rw [check_eq]
  obtain ⟨n, called⟩ := call_of_executes (Script.consume key.text limit seconds)
    Client.verdict? through
  rw [called, reply]
  exact ⟨⟨v, rfl, allowed, exact⟩, ⟨tracks, h.honest⟩, now_consume _ _ _ _⟩

theorem peek_of_executes (h : f.Follows seconds ledgers) {i : Nat}
    (through : f.executes i = true) (key : Key) (limit : Nat) :
    let live := (ledgers key).live f.server.sets.now (seconds * 1000)
    ((backend i).peek key limit seconds f).1
        = Client.answer (Client.count? (.int ((limit : Int) - live.length)))
      ∧ ((backend i).peek key limit seconds f).2.Follows seconds ledgers
      ∧ ((backend i).peek key limit seconds f).2.server.sets.now = f.server.sets.now := by
  intro live
  obtain ⟨reply, tracks⟩ := h.sets.remaining key limit
  rw [peek_eq]
  obtain ⟨n, called⟩ := call_of_executes (Script.remaining key.text limit seconds)
    Client.count? through
  rw [called, reply]
  exact ⟨rfl, ⟨tracks, h.honest⟩, SortedSets.now_expel _ _ _⟩

theorem peek (h : f.Follows seconds ledgers) (i : Nat) (key : Key) (limit : Nat) :
    ((backend i).peek key limit seconds f).2.Follows seconds ledgers := by
  cases through : f.executes i with
  | false =>
      rw [peek_eq]
      obtain ⟨e, c, n, -, called⟩ := call_of_not_executes
        (Script.remaining key.text limit seconds) Client.count? h.honest through
      rw [called]
      exact h.accepted rfl
  | true => exact (h.peek_of_executes through key limit).2.1

theorem close (h : f.Follows seconds ledgers) (i : Nat) :
    ((backend i).close f).Follows seconds ledgers := ⟨h.sets, h.honest⟩

end Follows

end Fleet

-- ====================================================== limiters at work

/-- Limiters over one store. -/
def shared : Deployment Fleet Nat Fleet.Upkeep where
  backend := Fleet.backend
  upkeep := Fleet.Upkeep.apply
  now f := f.server.sets.now

namespace Shared

abbrev Op := Deployment.Op Nat Fleet.Upkeep

def Honest : Op → Prop
  | .upkeep e => e.Honest
  | .call .. => True

open Limit.Deployment (Booked Entry admissions)

variable {q : Quota} {ledgers : Key → Ledger} {f : Fleet}

/-- What one step books, and that the store follows. -/
theorem entry_step (h : f.Follows q.seconds ledgers) {op : Op} (honest : Honest op) :
    ∃ ledgers', (shared.step q f op).2.Follows q.seconds ledgers'
      ∧ ∀ tenant, Entry q.limit (q.seconds * 1000) f.server.sets.now
          (ledgers (.ofTenant tenant)) (ledgers' (.ofTenant tenant))
          (admissions tenant (shared.step q f op).1) := by
  rcases op with ⟨i, caller | caller | caller | _⟩ | e
  case call.consume =>
    have events : (shared.step q f (.call i (.consume caller))).1
        = [⟨f.server.sets.now, .consume caller,
            .verdict ((Fleet.backend i).check (.ofTenant caller) q.limit q.seconds f).1⟩] :=
      rfl
    rw [events]
    cases through : f.executes i with
    | false =>
        obtain ⟨e, c, n, -, called⟩ := Fleet.call_of_not_executes
          (Script.consume (Key.ofTenant caller).text q.limit q.seconds)
          Client.verdict? h.honest through
        rw [← Fleet.check_eq] at called
        refine ⟨ledgers, ?_, fun tenant => ?_⟩
        · show ((Fleet.backend i).check (.ofTenant caller) q.limit q.seconds f).2.Follows _ _
          rw [called]
          exact h.accepted rfl
        · rw [called]
          exact .stays rfl rfl
    | true =>
        obtain ⟨⟨sent, answer, allowed, -⟩, follows, -⟩ :=
          h.check_of_executes through (.ofTenant caller) q.limit
        refine ⟨_, follows, fun tenant => .of_charge tenant fun v told => ?_⟩
        rw [answer] at told
        -- a verdict that does not arrive may have been recorded all the same
        cases arrived : Client.verdict? (replyOf sent) with
        | none =>
            rw [arrived] at told
            cases told
        | some w =>
            rw [arrived] at told
            cases told
            rw [Client.eq_heard arrived, Client.allowed_heard, allowed]
  case call.close => exact ⟨ledgers, h.close i, fun _ => .stays rfl rfl⟩
  case upkeep => exact ⟨ledgers, h.upkeep honest, fun _ => .stays rfl rfl⟩
  all_goals exact ⟨ledgers, h.peek i (.ofTenant caller) q.limit, fun _ => .stays rfl rfl⟩

theorem booked_run (h : f.Follows q.seconds ledgers) {ops : List Op}
    (honest : ∀ op ∈ ops, Honest op) :
    ∃ ledgers', Booked q.limit (q.seconds * 1000) ledgers (shared.run q f ops).1 ledgers' := by
  induction ops generalizing f ledgers with
  | nil => exact ⟨ledgers, .nil _⟩
  | cons op ops ih =>
      obtain ⟨between, follows, entry⟩ := entry_step h (honest op List.mem_cons_self)
      obtain ⟨ledgers', rest⟩ := ih follows fun o ho => honest o (List.mem_cons_of_mem _ ho)
      exact ⟨ledgers', .cons f.server.sets.now entry rest⟩

end Shared

end TenantGate.Store
