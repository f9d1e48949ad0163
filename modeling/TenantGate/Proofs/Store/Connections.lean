/-
When a caller opens a connection, and how long it holds it.

# The protocol

A caller takes steps, one after the other. Between two of them the store
may change as it likes: what it holds, its clock, and how it answers to a
greeting, to a ping and to a script. It only goes on accepting
connections. A `Turn` is a step together with what the store is like when
it is taken.

A step that finds no connection opens one, whether or not this goes well,
unless it closes; no other step opens any (`Turn.accepted_take`). After a
step the caller holds a connection if the step was not to close, if there
was a connection or one could be opened, and if no script was cut off on
it (`Turn.connected_take`).

# The count

So the store accepts as many connections as there are calls that find
none (`accepted_takeAll`), over turns in any number. `Orderly` lists what
follows for two turns in a row: a connection that could not be opened is
not held, an answer to a script is no reason to reconnect, whatever it
says, and a script that was cut off is the reason for one connection.
-/
import TenantGate.Proofs.Store.Faults

namespace TenantGate.Store

open Limit (Key)

-- ============================================================ the turns

/-- What a caller does. -/
inductive Step where
  | check (key : Key) (limit seconds : Nat)
  | peek (key : Key) (limit seconds : Nat)
  | verify
  | close
deriving DecidableEq

namespace Step

/-- Does the step send a script? -/
def asks : Step → Bool
  | check .. | peek .. => true
  | verify | close => false

/-- What the step does to the caller and the store. -/
def take : Step → Client × Server → Client × Server
  | check key limit seconds, l => (Client.backend.check key limit seconds l).2
  | peek key limit seconds, l => (Client.backend.peek key limit seconds l).2
  | verify, l => (l.1.connect l.2).2
  | close, l => Client.backend.close l

end Step

/-- A step, and what the store is like when it is taken. -/
structure Turn where
  sets : SortedSets
  greeting : Behaviour
  ping : Behaviour
  script : Behaviour
  step : Step

namespace Turn

/-- The store for this turn. -/
def meet (t : Turn) (s : Server) : Server :=
  { s with sets := t.sets, greeting := t.greeting, ping := t.ping, script := t.script }

def take (t : Turn) (l : Client × Server) : Client × Server := t.step.take (l.1, t.meet l.2)

end Turn

/-- A caller and a store at the start. -/
def newLine (micros : Nat) : Client × Server := (.start, .start micros)

def takeAll (turns : List Turn) (l : Client × Server) : Client × Server :=
  turns.foldl (fun l t => t.take l) l

/-- Does the step find no connection and need one? -/
def Step.opens (step : Step) (c : Client) : Bool := step != .close && !c.connected

/-- How many of the turns are calls that find no connection. -/
def openings : List Turn → Client × Server → Nat
  | [], _ => 0
  | t :: turns, l => (t.step.opens l.1).toNat + openings turns (t.take l)

-- ============================================================ one turn

namespace Server

theorem askScript_answered (run : SortedSets → Reply × SortedSets) (s : Server) :
    (s.askScript run).1 ≠ .timedOut ∧ (s.askScript run).1 ≠ .closed
      ↔ s.script ≠ .silent ∧ s.script ≠ .close := by
  obtain ⟨sets, reachable, greeting, ping, script, accepted⟩ := s
  cases script with
  | silent => exact iff_of_false (fun h => h.1 rfl) fun h => h.1 rfl
  | close => exact iff_of_false (fun h => h.2 rfl) fun h => h.2 rfl
  | _ => exact iff_of_true ⟨nofun, nofun⟩ ⟨nofun, nofun⟩

theorem askScript_keeps (run : SortedSets → Reply × SortedSets) (s : Server) :
    (s.askScript run).2.accepted = s.accepted
      ∧ (s.askScript run).2.reachable = s.reachable := by
  obtain ⟨sets, reachable, greeting, ping, script, accepted⟩ := s
  cases script with
  | _ => exact ⟨rfl, rfl⟩

end Server

namespace Client

variable {α : Type} (run : SortedSets → Reply × SortedSets) (decode : Reply → Option α)
  {c : Client} {s : Server}

theorem connected_connect (c : Client) (s : Server) :
    (c.connect s).2.1.connected = true ↔ c.Ready s := by
  rw [← connect_ok_iff]
  unfold connect
  split
  next held => exact ⟨fun _ => rfl, fun _ => held⟩
  next lacks =>
    split
    next => exact ⟨fun _ => rfl, fun _ => rfl⟩
    next => exact ⟨fun held => absurd held lacks, nofun⟩

/-- A caller without a connection makes the store accept one. -/
theorem accepted_connect (reachable : s.reachable = true) :
    (c.connect s).2.2.accepted = s.accepted + (!c.connected).toNat := by
  have opened : (openConnection s).2.accepted = s.accepted + 1 := by
    unfold openConnection
    rw [if_pos reachable]
  unfold connect
  cases c.connected with
  | true => rfl
  | false =>
      rw [if_neg Bool.false_ne_true]
      split
      next e =>
        rw [e] at opened
        exact opened
      next e =>
        rw [e] at opened
        exact opened

theorem reachable_connect (c : Client) (s : Server) :
    (c.connect s).2.2.reachable = s.reachable := by
  obtain ⟨n, server⟩ := connect_server c s
  rw [server]

/-- A caller keeps its connection if a script is answered on it. -/
theorem settle_good_iff {o : Outcome} :
    (settle decode o).2 = true ↔ o ≠ .timedOut ∧ o ≠ .closed := by
  cases o with
  | reply r =>
      refine iff_of_true ?_ ⟨nofun, nofun⟩
      unfold settle
      dsimp only
      split
      next => rfl
      next => rfl
  | error text => exact iff_of_true rfl ⟨nofun, nofun⟩
  | closed => exact iff_of_false nofun fun h => h.2 rfl
  | timedOut => exact iff_of_false nofun fun h => h.1 rfl

theorem connected_call :
    (c.call run decode s).2.1.connected = true ↔
      c.Ready s ∧ s.script ≠ .silent ∧ s.script ≠ .close := by
  cases connected : (c.connect s).1 with
  | error e =>
      have unready : ¬ c.Ready s := fun ready => by
        rw [(connect_ok_iff c s).2 ready] at connected
        cases connected
      rw [call_of_connect_error run decode connected, connected_connect]
      exact iff_of_false unready fun h => unready h.1
  | ok u =>
      have ready := (connect_ok_iff c s).1 connected
      rw [call_of_connect_ok run decode connected, askScript_connect, and_iff_right ready]
      exact (settle_good_iff decode).trans (s.askScript_answered run)

theorem server_call :
    (c.call run decode s).2.2.accepted = (c.connect s).2.2.accepted
      ∧ (c.call run decode s).2.2.reachable = s.reachable := by
  rw [← reachable_connect c s]
  cases connected : (c.connect s).1 with
  | error e =>
      rw [call_of_connect_error run decode connected]
      exact ⟨rfl, rfl⟩
  | ok u =>
      rw [call_of_connect_ok run decode connected]
      exact (c.connect s).2.2.askScript_keeps run

end Client

namespace Step

theorem opens_of_ne_close {step : Step} (other : step ≠ .close) (c : Client) :
    step.opens c = !c.connected := by
  unfold opens
  rw [bne_iff_ne.2 other, Bool.true_and]

/-- A step closes, verifies, or asks by a script call. -/
theorem kinds (step : Step) :
    step = .close ∨ step = .verify ∨ (step ≠ .close ∧ step.asks = true
      ∧ ∃ (α : Type) (run : SortedSets → Reply × SortedSets) (decode : Reply → Option α),
        ∀ l, step.take l = (l.1.call run decode l.2).2) := by
  cases step with
  | close => exact .inl rfl
  | verify => exact .inr (.inl rfl)
  | check key limit seconds =>
      exact .inr (.inr ⟨nofun, rfl, _, Script.consume key.text limit seconds,
        Client.verdict?, fun _ => rfl⟩)
  | peek key limit seconds =>
      exact .inr (.inr ⟨nofun, rfl, _, Script.remaining key.text limit seconds,
        Client.count?, fun _ => rfl⟩)

theorem accepted_take {s : Server} (step : Step) (c : Client) (reachable : s.reachable = true) :
    (step.take (c, s)).2.accepted = s.accepted + (step.opens c).toNat := by
  rcases step.kinds with rfl | rfl | ⟨other, -, α, run, decode, called⟩
  · rfl
  · exact Client.accepted_connect reachable
  · rw [called, opens_of_ne_close other]
    exact (Client.server_call run decode).1.trans (Client.accepted_connect reachable)

theorem reachable_take (step : Step) (c : Client) (s : Server) :
    (step.take (c, s)).2.reachable = s.reachable := by
  rcases step.kinds with rfl | rfl | ⟨-, -, α, run, decode, called⟩
  · rfl
  · exact Client.reachable_connect c s
  · rw [called]
    exact (Client.server_call run decode).2

theorem connected_take (step : Step) (c : Client) (s : Server) :
    (step.take (c, s)).1.connected = true ↔
      step ≠ .close ∧ c.Ready s
        ∧ (step.asks = true → s.script ≠ .silent ∧ s.script ≠ .close) := by
  rcases step.kinds with rfl | rfl | ⟨other, asks, α, run, decode, called⟩
  · exact iff_of_false nofun fun h => h.1 rfl
  · refine (Client.connected_connect c s).trans ⟨fun ready => ⟨nofun, ready, nofun⟩, ?_⟩
    exact fun h => h.2.1
  · rw [called, Client.connected_call, and_iff_right other, forall_prop_of_true asks]

end Step

namespace Turn

variable {l : Client × Server}

theorem accepted_take (t : Turn) (reachable : l.2.reachable = true) :
    (t.take l).2.accepted = l.2.accepted + (t.step.opens l.1).toNat :=
  t.step.accepted_take l.1 reachable

theorem reachable_take (t : Turn) (l : Client × Server) :
    (t.take l).2.reachable = l.2.reachable :=
  t.step.reachable_take l.1 (t.meet l.2)

theorem connected_take (t : Turn) (l : Client × Server) :
    (t.take l).1.connected = true ↔
      t.step ≠ .close ∧ (l.1.connected = true ∨ (t.meet l.2).Opens)
        ∧ (t.step.asks = true → t.script ≠ .silent ∧ t.script ≠ .close) :=
  t.step.connected_take l.1 (t.meet l.2)

/-- A connection on which the store answers is held, whatever it says. -/
theorem connected_of_answered {t : Turn} (asks : t.step.asks = true)
    (ready : l.1.connected = true ∨ (t.meet l.2).Opens)
    (answer : (∃ text, t.script = .error text) ∨ ∃ r, t.script = .reply r) :
    (t.take l).1.connected = true := by
  have other : t.step ≠ .close := fun close => by
    rw [close] at asks
    cases asks
  refine (t.connected_take l).2 ⟨other, ready, fun _ => ?_⟩
  rcases answer with ⟨text, script⟩ | ⟨r, script⟩
  · rw [script]
    exact ⟨nofun, nofun⟩
  · rw [script]
    exact ⟨nofun, nofun⟩

/-- One on which it does not answer is let go. -/
theorem not_connected_of_cut {t : Turn} (asks : t.step.asks = true)
    (cut : t.script = .silent ∨ t.script = .close) : (t.take l).1.connected = false := by
  rw [← Bool.not_eq_true, t.connected_take l]
  rintro ⟨-, -, answered⟩
  exact cut.elim (answered asks).1 (answered asks).2

end Turn

-- ============================================================ all turns

/-- The store stays reachable, and counts what the caller opens. -/
theorem accepted_takeAll (turns : List Turn) {l : Client × Server}
    (reachable : l.2.reachable = true) :
    (takeAll turns l).2.reachable = true
      ∧ (takeAll turns l).2.accepted = l.2.accepted + openings turns l := by
  induction turns generalizing l with
  | nil => exact ⟨reachable, rfl⟩
  | cons t turns ih =>
      obtain ⟨still, counted⟩ := ih ((t.reachable_take l).trans reachable)
      refine ⟨still, counted.trans ?_⟩
      rw [t.accepted_take reachable, Nat.add_assoc]
      rfl

/-- Who only closes opens nothing, and holds nothing that it did not hold. -/
theorem openings_of_idle {idle : List Turn} (closes : ∀ t ∈ idle, t.step = .close)
    {l : Client × Server} (empty : l.1.connected = false) :
    openings idle l = 0 ∧ (takeAll idle l).1.connected = false := by
  induction idle generalizing l with
  | nil => exact ⟨rfl, empty⟩
  | cons t idle ih =>
      have close := closes t List.mem_cons_self
      have dropped : (t.take l).1.connected = false := by
        unfold Turn.take
        rw [close]
        rfl
      obtain ⟨none, still⟩ := ih (fun u hu => closes u (List.mem_cons_of_mem _ hu)) dropped
      refine ⟨?_, still⟩
      unfold openings Step.opens
      rw [none, close]
      rfl

/-- The rules for a connection, from where a caller and a store stand. -/
structure Orderly (l : Client × Server) : Prop where
  opened : ∀ t : Turn, (t.take l).2.accepted
    = l.2.accepted + if t.step ≠ .close ∧ l.1.connected = false then 1 else 0
  held : ∀ t : Turn, (t.take l).1.connected = true ↔
    t.step ≠ .close ∧ (l.1.connected = true ∨ (t.meet l.2).Opens)
      ∧ (t.step.asks = true → t.script ≠ .silent ∧ t.script ≠ .close)
  /-- What could not be opened is not held. -/
  unopened : ∀ t : Turn, l.1.connected = false → ¬ (t.meet l.2).Opens →
    (t.take l).1.connected = false
  /-- An answer, whatever it says, is no reason to reconnect. -/
  answered : ∀ t u : Turn, t.step.asks = true →
    (l.1.connected = true ∨ (t.meet l.2).Opens) →
    ((∃ text, t.script = .error text) ∨ ∃ r, t.script = .reply r) →
      (u.take (t.take l)).2.accepted = (t.take l).2.accepted
  /-- A script without an answer is the reason for one connection, which
  the next call opens. -/
  cut : ∀ (t : Turn) (idle : List Turn) (u : Turn), t.step.asks = true →
    (t.script = .silent ∨ t.script = .close) →
    (∀ i ∈ idle, i.step = .close) → u.step ≠ .close →
      (u.take (takeAll idle (t.take l))).2.accepted = (t.take l).2.accepted + 1
  closed : Step.close.take l = (.start, l.2)
    ∧ Step.close.take (Step.close.take l) = Step.close.take l

theorem orderly_of_reachable {l : Client × Server} (reachable : l.2.reachable = true) :
    Orderly l where
  opened t := by
    rw [t.accepted_take reachable]
    unfold Step.opens
    by_cases close : t.step = .close
    · rw [close]
      rfl
    · rw [bne_iff_ne.2 close, if_congr (and_iff_right close) rfl rfl]
      cases l.1.connected with
      | false => rfl
      | true => rfl
  held t := t.connected_take l
  unopened t empty fails := by
    rw [← Bool.not_eq_true, t.connected_take l]
    rintro ⟨-, held | opens, -⟩
    · rw [empty] at held
      cases held
    · exact fails opens
  answered t u asks ready answer := by
    rw [u.accepted_take ((t.reachable_take l).trans reachable)]
    unfold Step.opens
    rw [Turn.connected_of_answered asks ready answer, Bool.not_true, Bool.and_false]
    rfl
  cut t idle u asks cut closes other := by
    -- whoever closes in between finds nothing to close
    obtain ⟨none, empty⟩ := openings_of_idle closes (Turn.not_connected_of_cut asks cut)
    obtain ⟨reaches, counted⟩ :=
      accepted_takeAll idle ((t.reachable_take l).trans reachable)
    rw [u.accepted_take reaches, counted, none, Step.opens_of_ne_close other, empty]
    rfl
  closed := ⟨rfl, rfl⟩

/-- After any turns, the store has accepted one connection for each call
that found none, and the rules hold. -/
theorem orderly_takeAll (micros : Nat) (turns : List Turn) :
    (takeAll turns (newLine micros)).2.accepted = openings turns (newLine micros)
      ∧ Orderly (takeAll turns (newLine micros)) := by
  obtain ⟨reachable, counted⟩ := accepted_takeAll turns (l := newLine micros) rfl
  refine ⟨counted.trans ?_, orderly_of_reachable reachable⟩
  exact Nat.zero_add _

example :
    let turn (script : Behaviour) : Turn :=
      ⟨.start 0, .proper, .proper, script, .check ⟨"k"⟩ 1 1⟩
    (takeAll [turn .silent, turn (.error "busy"), turn (.reply .nil), turn .proper]
      (newLine 0)).2.accepted = 2 := by decide +kernel

end TenantGate.Store
