/-
A store and windows in memory give the same answers.

# What is compared

Instances ask a fleet about keys, with one length of window and limits
that may change from question to question. A question that gets through
is answered by the sets of the store. `replay` puts the questions that
got through, and those alone, to windows in memory, at the same times.
`Agrees` says that the answers are the same, one by one, that whoever did
not get through is told that the store is unavailable, and that such a
question leaves no trace but on the connection of its instance: it may
be let go, or opened. If it is as before, then so is all that follows.

# Where they agree

Both sides track the same ledgers (`Meets`), the store for the length of
the window and the memory for its `span`. A script counts in floating
point and memory in 64 bits. As long as a record of the present time
expires by 2^53 both count as the ledgers do, no window is cut, and every
number fits on its way to the caller (`Meets.ask`). So they agree for all
windows and all times of which that is true (`agrees`). Of a moment that
comes three milliseconds later the script may name a wait that is a
second too long (`disagreement`).
-/
import TenantGate.Proofs.Limit.Logs
import TenantGate.Proofs.Store.Fleet
import TenantGate.Proofs.Window.Wait

namespace TenantGate.Limit

open Window (Verdict)

/-- A question about the window of a key. -/
inductive Ask where
  | check (key : Key) (limit : Nat)
  | peek (key : Key) (limit : Nat)
deriving DecidableEq

namespace Ask

def limit : Ask → Nat
  | check _ limit | peek _ limit => limit

inductive Answer where
  | verdict (r : Except Error Verdict)
  | room (r : Except Error Nat)
deriving DecidableEq

def Answer.isUnavailable : Answer → Bool
  | verdict (.error e) | room (.error e) => e.isUnavailable
  | _ => false

end Ask

def Backend.ask {σ : Type} (b : Backend σ) (seconds : Nat) : Ask → σ → Ask.Answer × σ
  | .check key limit, s =>
      let (r, s) := b.check key limit seconds s
      (.verdict r, s)
  | .peek key limit, s =>
      let (r, s) := b.peek key limit seconds s
      (.room r, s)

end TenantGate.Limit

namespace TenantGate.Store

open Function (update update_of_ne update_self)
open Limit (Ask Error Key Memory)
open Window (Ledger Verdict maxCount span)

namespace Fleet

-- ================================================================= runs

/-- What happens in a fleet. -/
inductive Op where
  | ask (i : Nat) (a : Ask)
  | close (i : Nat)
  | upkeep (e : Upkeep)

/-- Limits have 32 bits, and the upkeep is honest. -/
def Op.Proper : Op → Prop
  | ask _ a => a.limit < 2 ^ 32
  | close _ => True
  | upkeep e => e.Honest

/-- A question that was asked, and whether it got through. -/
structure Event where
  now : Nat
  ask : Ask
  executed : Bool
  answer : Ask.Answer

/-- One step, with the events that it leaves. -/
def step (seconds : Nat) (f : Fleet) : Op → List Event × Fleet
  | .ask i a =>
      let (answer, f') := (backend i).ask seconds a f
      ([⟨f.server.sets.now, a, f.executes i, answer⟩], f')
  | .close i => ([], (backend i).close f)
  | .upkeep e => ([], e.apply f)

/-- The events of a run, and the fleet after it. -/
def run (seconds : Nat) (f : Fleet) : List Op → List Event × Fleet
  | [] => ([], f)
  | op :: ops =>
      let (events, f) := f.step seconds op
      let (rest, f) := run seconds f ops
      (events ++ rest, f)

/-- What windows in memory answer to the questions, at their times. -/
def replay (seconds : Nat) (m : Memory) : List Event → List Ask.Answer
  | [] => []
  | e :: es =>
      let (answer, m) := Memory.backend.ask seconds e.ask { m with now := e.now }
      answer :: replay seconds m es

/-- For windows of `seconds`, fleets answer as windows in memory. -/
structure Agrees (seconds : Nat) : Prop where
  /-- Who does not get through is told so. -/
  unavailable : ∀ (micros : Nat) (ops : List Op), (∀ op ∈ ops, op.Proper) →
    ∀ e ∈ ((start micros).run seconds ops).1, e.executed = false →
      e.answer.isUnavailable = true
  /-- Who gets through is answered as if those who do not had not asked,
  by windows in memory, while a script can count so far. -/
  executed : ∀ (micros : Nat) (ops : List Op), (∀ op ∈ ops, op.Proper) →
    let through := ((start micros).run seconds ops).1.filter (·.executed)
    (∀ e ∈ through, e.now + seconds * 1000 ≤ Double.exact) →
      through.map (·.answer) = replay seconds (.start 0) through
  /-- Who does not get through leaves the store as it was, but for the
  count of connections, and so all other instances; and what follows is
  the same, unless the connection has been opened or let go. -/
  traceless : ∀ (micros : Nat) (before : List Op), (∀ op ∈ before, op.Proper) →
    ∀ (i : Nat) (a : Ask),
      let f := ((start micros).run seconds before).2
      let f' := (f.step seconds (.ask i a)).2
      f.executes i = false →
        (∃ n, f'.server = { f.server with accepted := n })
          ∧ (∀ j, j ≠ i → f'.clients j = f.clients j)
          ∧ (f'.clients i = f.clients i →
            ∀ after, (f'.run seconds after).1 = (f.run seconds after).1)

-- ============================================= the count of connections

/-- An answer does not depend on how many connections there were. -/
theorem ask_counting (seconds n i : Nat) (a : Ask) (f : Fleet) :
    ∃ m, (backend i).ask seconds a (f.counting n)
      = (((backend i).ask seconds a f).1, ((backend i).ask seconds a f).2.counting m) := by
  cases a with
  | check key limit =>
      obtain ⟨m, called⟩ := call_counting (Script.consume key.text limit seconds)
        Client.verdict? n f i
      have asked := congrArg (fun r => (Ask.Answer.verdict r.1, r.2)) called
      exact ⟨m, asked⟩
  | peek key limit =>
      obtain ⟨m, called⟩ := call_counting (Script.remaining key.text limit seconds)
        Client.count? n f i
      have asked := congrArg (fun r => (Ask.Answer.room r.1, r.2)) called
      exact ⟨m, asked⟩

theorem step_ask (seconds i : Nat) (a : Ask) (f : Fleet) :
    f.step seconds (.ask i a)
      = ([⟨f.server.sets.now, a, f.executes i, ((backend i).ask seconds a f).1⟩],
        ((backend i).ask seconds a f).2) := rfl

theorem step_counting (seconds n : Nat) (f : Fleet) (op : Op) :
    ∃ m, (f.counting n).step seconds op
      = ((f.step seconds op).1, (f.step seconds op).2.counting m) := by
  cases op with
  | ask i a =>
      obtain ⟨m, asked⟩ := ask_counting seconds n i a f
      have same : (f.counting n).executes i = f.executes i :=
        Client.executes_accepted (f.clients i) f.server n
      refine ⟨m, ?_⟩
      rw [step_ask, step_ask, asked, same]
      rfl
  | close i => exact ⟨n, rfl⟩
  | upkeep e =>
      cases e with
      | connect i =>
          obtain ⟨m, connected⟩ := Client.connect_accepted (f.clients i) f.server n
          exact ⟨m, congrArg (fun r => ([], f.put i r.2)) connected⟩
      | _ => exact ⟨n, rfl⟩

theorem run_counting (seconds n : Nat) (f : Fleet) (ops : List Op) :
    ((f.counting n).run seconds ops).1 = (f.run seconds ops).1 := by
  induction ops generalizing f n with
  | nil => rfl
  | cons op ops ih =>
      obtain ⟨m, e⟩ := step_counting seconds n f op
      show ((f.counting n).step seconds op).1 ++ (((f.counting n).step seconds op).2.run _ _).1
        = _
      rw [e, ih]
      rfl

-- ================================================= who gets no answer

theorem Follows.ask_of_not_executes {seconds i : Nat} {ledgers : Key → Ledger} {f : Fleet}
    (h : f.Follows seconds ledgers) (fails : f.executes i = false) (a : Ask) :
    ∃ (answer : Ask.Answer) (c : Client) (n : Nat), answer.isUnavailable = true
      ∧ (backend i).ask seconds a f
        = (answer, f.put i (c, { f.server with accepted := n })) := by
  cases a with
  | check key limit =>
      obtain ⟨e, c, n, unavailable, called⟩ := call_of_not_executes
        (Script.consume key.text limit seconds) Client.verdict? h.honest fails
      have asked := congrArg (fun r => (Ask.Answer.verdict r.1, r.2)) called
      exact ⟨.verdict (.error e), c, n, unavailable, asked⟩
  | peek key limit =>
      obtain ⟨e, c, n, unavailable, called⟩ := call_of_not_executes
        (Script.remaining key.text limit seconds) Client.count? h.honest fails
      have asked := congrArg (fun r => (Ask.Answer.room r.1, r.2)) called
      exact ⟨.room (.error e), c, n, unavailable, asked⟩

/-- Whatever is done, the store follows, and who does not get through is
told so. -/
theorem Follows.step {seconds : Nat} {ledgers : Key → Ledger} {f : Fleet}
    (h : f.Follows seconds ledgers) {op : Op} (proper : op.Proper) :
    (∀ e ∈ (f.step seconds op).1, e.executed = false → e.answer.isUnavailable = true)
      ∧ ∃ ledgers', (f.step seconds op).2.Follows seconds ledgers' := by
  cases op with
  | ask i a =>
      rw [step_ask]
      cases through : f.executes i with
      | false =>
          obtain ⟨answer, c, n, unavailable, asked⟩ := h.ask_of_not_executes through a
          rw [asked]
          refine ⟨fun e he _ => ?_, ledgers, h.accepted rfl⟩
          rw [List.mem_singleton.1 he]
          exact unavailable
      | true =>
          refine ⟨fun e he silent => ?_, ?_⟩
          · rw [List.mem_singleton.1 he] at silent
            cases silent
          · cases a with
            | check key limit => exact ⟨_, (h.check_of_executes through key limit).2.1⟩
            | peek key limit => exact ⟨_, (h.peek_of_executes through key limit).2.1⟩
  | close i => exact ⟨nofun, ledgers, h.close i⟩
  | upkeep e => exact ⟨nofun, ledgers, h.upkeep proper⟩

theorem Follows.run {seconds : Nat} {ledgers : Key → Ledger} {f : Fleet}
    (h : f.Follows seconds ledgers) {ops : List Op} (proper : ∀ op ∈ ops, op.Proper) :
    (∀ e ∈ (f.run seconds ops).1, e.executed = false → e.answer.isUnavailable = true)
      ∧ ∃ ledgers', (f.run seconds ops).2.Follows seconds ledgers' := by
  induction ops generalizing f ledgers with
  | nil => exact ⟨nofun, ledgers, h⟩
  | cons op ops ih =>
      obtain ⟨told, ledgers', follows⟩ := h.step (proper op List.mem_cons_self)
      obtain ⟨told', rest⟩ := ih follows fun o ho => proper o (List.mem_cons_of_mem _ ho)
      refine ⟨fun e he => ?_, rest⟩
      rcases List.mem_append.1 he with he | he
      · exact told e he
      · exact told' e he

/-- A question that does not get through, and what it leaves behind. -/
theorem Follows.traceless {seconds i : Nat} {ledgers : Key → Ledger} {f : Fleet}
    (h : f.Follows seconds ledgers) (fails : f.executes i = false) (a : Ask) :
    let f' := (f.step seconds (.ask i a)).2
    (∃ n, f'.server = { f.server with accepted := n })
      ∧ (∀ j, j ≠ i → f'.clients j = f.clients j)
      ∧ (f'.clients i = f.clients i →
        ∀ after, (f'.run seconds after).1 = (f.run seconds after).1) := by
  intro f'
  obtain ⟨answer, c, n, -, asked⟩ := h.ask_of_not_executes fails a
  have left : f' = f.put i (c, { f.server with accepted := n }) := congrArg Prod.snd asked
  rw [left]
  refine ⟨⟨n, rfl⟩, fun j other => update_of_ne other _ _, fun same after => ?_⟩
  have kept : c = f.clients i := (clients_put i f c _).symm.trans same
  have counted : f.put i (c, { f.server with accepted := n }) = f.counting n := by
    unfold put counting
    rw [kept, Function.update_eq_self]
  rw [counted, run_counting]

-- ========================================================== both sides

/-- A window up to the end of which a script can count is not cut. -/
theorem span_of_exact {now seconds : Nat} (exact : now + seconds * 1000 ≤ Double.exact) :
    span seconds = seconds * 1000 := by
  unfold Double.exact at exact
  unfold span maxCount
  omega

/-- A fleet and windows in memory track the same ledgers, in which no
window holds more than a limit of 32 bits allows. -/
structure Meets (seconds : Nat) (ledgers : Key → Ledger) (f : Fleet) (m : Memory) : Prop where
  store : f.Follows seconds ledgers
  memory : m.Tracks (span seconds) ledgers
  clock : m.now ≤ f.server.sets.now
  sparse : ∀ key, (ledgers key).Sparse (2 ^ 32 - 1) (seconds * 1000)

namespace Meets

variable {seconds : Nat} {ledgers : Key → Ledger} {f : Fleet} {m : Memory}

theorem start (seconds micros : Nat) :
    Meets seconds (fun _ => .empty) (Fleet.start micros) (.start 0) :=
  ⟨.start _ _, .start _ _, Nat.zero_le _, fun _ => Ledger.sparse_empty _ _⟩

theorem few (h : Meets seconds ledgers f m) (key : Key) :
    ((ledgers key).live f.server.sets.now (seconds * 1000)).length < 2 ^ 32 := by
  have := Ledger.length_live_le (h.sparse key) (h.store.sets.logs key).upTo.past
  omega

/-- A ledger's verdict arrives. -/
theorem sendable (h : Meets seconds ledgers f m)
    (exact : f.server.sets.now + seconds * 1000 ≤ Double.exact) (key : Key) {limit : Nat}
    (limited : limit < 2 ^ 32) :
    Client.Sendable
      ((ledgers key).check f.server.sets.now limit (seconds * 1000) seconds).1 := by
  rcases Nat.lt_or_ge ((ledgers key).live f.server.sets.now (seconds * 1000)).length limit
    with room | full
  · rw [Ledger.check_of_room room]
    show limit - _ - 1 < 2 ^ 32
    omega
  · rw [Ledger.check_of_full full]
    obtain ⟨pos, le⟩ := Ledger.wait_bounds (h.store.sets.logs key).upTo (Nat.le_refl _)
    refine ⟨pos, ?_⟩
    unfold Double.exact at exact
    omega

/-- A check of the windows in memory at the time of the store. -/
theorem memory_check (h : Meets seconds ledgers f m)
    (exact : f.server.sets.now + seconds * 1000 ≤ Double.exact) (key : Key) (limit : Nat) :
    let now := f.server.sets.now
    let check := (ledgers key).check now limit (seconds * 1000) seconds
    (Memory.check key limit seconds { m with now }).1 = check.1
      ∧ (Memory.check key limit seconds { m with now }).2.Tracks (span seconds)
          (update ledgers key check.2) := by
  intro now check
  have length := span_of_exact exact
  have memory : Memory.Tracks (span seconds) ledgers { m with now } := h.memory.at_later h.clock
  have fits : ∀ sum ∈ Memory.sum? key limit seconds { m with now }, sum ≤ maxCount := by
    intro sum mem
    have := (memory key).sum_le mem
    rw [length] at this
    unfold Double.exact at exact
    unfold maxCount
    exact this.trans (exact.trans (by decide))
  have verdict := (memory key).verdict_check fits
  have tracks := memory.check key limit
  rw [length] at verdict tracks
  rw [length]
  exact ⟨verdict, tracks⟩

/-- A question that gets through, and a script that can count so far: both
answer the same and meet again. -/
theorem ask (h : Meets seconds ledgers f m)
    (exact : f.server.sets.now + seconds * 1000 ≤ Double.exact) {i : Nat} {a : Ask}
    (limited : a.limit < 2 ^ 32) (through : f.executes i = true) :
    let asked := Memory.backend.ask seconds a { m with now := f.server.sets.now }
    ((backend i).ask seconds a f).1 = asked.1
      ∧ ∃ ledgers', Meets seconds ledgers' ((backend i).ask seconds a f).2 asked.2 := by
  cases a with
  | check key limit =>
      have limited : limit < 2 ^ 32 := limited
      obtain ⟨⟨v, answer, -, counted⟩, follows, now⟩ :=
        h.store.check_of_executes through key limit
      obtain ⟨answer', tracks⟩ := h.memory_check exact key limit
      rw [counted exact, Client.verdict?_replyOf (h.sendable exact key limited)] at answer
      refine ⟨?_, _, follows, tracks, Nat.le_of_eq now.symm, fun other => ?_⟩
      · exact (congrArg Ask.Answer.verdict answer).trans
          (congrArg (fun v => Ask.Answer.verdict (.ok v)) answer'.symm)
      · by_cases e : other = key
        · rw [e, update_self]
          exact (h.sparse key).check (Nat.le_sub_one_of_lt limited)
        · rw [update_of_ne e]
          exact h.sparse other
  | peek key limit =>
      have limited : limit < 2 ^ 32 := limited
      obtain ⟨answer, follows, now⟩ := h.store.peek_of_executes through key limit
      obtain ⟨answer', tracks⟩ := (h.memory.at_later h.clock).peek key limit
      rw [span_of_exact exact] at answer'
      rw [Client.count?_room limited (h.few key)] at answer
      refine ⟨?_, _, follows, tracks, ?_, h.sparse⟩
      · exact (congrArg Ask.Answer.room answer).trans
          (congrArg (fun n => Ask.Answer.room (.ok n)) answer'.symm)
      · exact Nat.le_of_eq ((Memory.now_peek _ _ _ _).trans now.symm)

theorem not_executed (h : Meets seconds ledgers f m) {i : Nat} (fails : f.executes i = false)
    (a : Ask) : Meets seconds ledgers ((backend i).ask seconds a f).2 m := by
  obtain ⟨answer, c, n, -, asked⟩ := h.store.ask_of_not_executes fails a
  rw [asked]
  exact ⟨h.store.accepted rfl, h.memory, h.clock, h.sparse⟩

theorem upkeep (h : Meets seconds ledgers f m) {e : Upkeep} (honest : e.Honest) :
    Meets seconds ledgers (e.apply f) m := by
  refine ⟨h.store.upkeep honest, h.memory, Nat.le_trans h.clock ?_, h.sparse⟩
  cases e with
  | advance micros => exact Nat.div_le_div_right (Nat.le_add_right f.server.sets.micros micros)
  | connect i =>
      obtain ⟨n, server⟩ := Client.connect_server (f.clients i) f.server
      show f.server.sets.now ≤ ((f.clients i).connect f.server).2.2.sets.now
      rw [server]
  | _ => exact Nat.le_refl _

/-- A run: the questions that get through are answered as by windows in
memory that hear of them alone. -/
theorem run (h : Meets seconds ledgers f m) {ops : List Op} (proper : ∀ op ∈ ops, op.Proper)
    (exact : ∀ e ∈ (f.run seconds ops).1.filter (·.executed),
      e.now + seconds * 1000 ≤ Double.exact) :
    ((f.run seconds ops).1.filter (·.executed)).map (·.answer)
      = replay seconds m ((f.run seconds ops).1.filter (·.executed)) := by
  induction ops generalizing f m ledgers with
  | nil => rfl
  | cons op ops ih =>
      have rest : ∀ o ∈ ops, o.Proper := fun o ho => proper o (List.mem_cons_of_mem _ ho)
      have limited := proper op List.mem_cons_self
      cases op with
      | ask i a =>
          have events : (f.run seconds (.ask i a :: ops)).1
              = ⟨f.server.sets.now, a, f.executes i, ((backend i).ask seconds a f).1⟩
                :: (((backend i).ask seconds a f).2.run seconds ops).1 := rfl
          rw [events] at exact ⊢
          cases through : f.executes i with
          -- memory does not hear of it, and its clock falls behind
          | false =>
              rw [through, List.filter_cons_of_neg Bool.false_ne_true] at exact
              rw [List.filter_cons_of_neg Bool.false_ne_true]
              exact ih (h.not_executed through a) rest exact
          | true =>
              rw [through, List.filter_cons_of_pos rfl] at exact
              obtain ⟨answer, ledgers', meets⟩ :=
                h.ask (exact _ List.mem_cons_self) limited through
              rw [List.filter_cons_of_pos rfl, List.map_cons,
                ih meets rest fun e he => exact e (List.mem_cons_of_mem _ he), answer]
              rfl
      | close i => exact ih ⟨h.store.close i, h.memory, h.clock, h.sparse⟩ rest exact
      | upkeep e => exact ih (h.upkeep limited) rest exact

end Meets

-- =========================================================== the theorem

/-- Fleets answer as windows in memory while a script can count up to the
moment at which a record expires, and whoever gets no answer leaves no
trace but on its own connection. -/
theorem agrees (seconds : Nat) : Agrees seconds where
  unavailable micros _ proper := ((Follows.start seconds micros).run proper).1
  executed micros _ proper := (Meets.start seconds micros).run proper
  traceless := by
    intro micros before proper i a f f' fails
    obtain ⟨ledgers, follows⟩ := ((Follows.start seconds micros).run proper).2
    exact follows.traceless fails a

/-- Two runs where more would be too much. A record expires three
milliseconds after 2^53, which the script rounds to four, and it names a
wait that is a second too long. And a question that is not answered in
time costs its instance the connection: when there is no other to be had,
the next question fails, which without it would have got through. -/
theorem disagreement :
    let seconds := 9005499254740
    let twice : List Op := [.ask 0 (.check ⟨"k"⟩ 1), .ask 0 (.check ⟨"k"⟩ 1)]
    let through := ((start 1700000000995000).run seconds twice).1.filter (·.executed)
    let lost : List Op :=
      [.upkeep (.connect 0), .upkeep (.ping .silent), .upkeep (.script .silent)]
    let mended : Op := .upkeep (.script .proper)
    let question : Op := .ask 0 (.peek ⟨"k"⟩ 1)
    (through.map (fun e => e.now + seconds * 1000) = [Double.exact + 3, Double.exact + 3]
        ∧ through.map (·.answer)
          = [.verdict (.ok (.admitted 0)), .verdict (.ok (.denied (seconds + 1)))]
        ∧ replay seconds (.start 0) through
          = [.verdict (.ok (.admitted 0)), .verdict (.ok (.denied seconds))])
      ∧ ((start 0).run 60 (lost ++ [question, mended, question])).1.map (·.executed)
          = [false, false]
        ∧ ((start 0).run 60 (lost ++ [mended, question])).1.map (·.executed) = [true] := by
  decide +kernel

end Fleet

end TenantGate.Store
