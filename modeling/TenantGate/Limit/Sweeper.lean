/-
Sweepers: tasks that purge windows kept in memory once per period.

A sweeper counts the time since it was started. An advance of the clock
that completes one or more of its periods makes it purge once, at the
new reading. It belongs to the memory it was started on: when that has
been replaced, its next period ends it.
-/
import TenantGate.Limit.Memory

namespace TenantGate.Limit

/-- A task that purges with a window of `seconds`. -/
structure Sweeper where
  seconds : Nat
  /-- Milliseconds since the start. -/
  elapsed : Nat
  /-- Has its memory been replaced? -/
  orphaned : Bool
  ended : Bool
deriving DecidableEq, Inhabited

namespace Sweeper

/-- A sweeper that starts now. -/
def start (seconds : Nat) : Sweeper := ⟨seconds, 0, false, false⟩

/-- Milliseconds from one purge to the next: the window, at least one
second. -/
def period (s : Sweeper) : Nat := max s.seconds 1 * 1000

/-- Do the next `ms` milliseconds complete a period? -/
def due (ms : Nat) (s : Sweeper) : Bool :=
  s.elapsed / s.period < (s.elapsed + ms) / s.period

/-- Lets `ms` milliseconds pass; the memory's clock has moved already. -/
def pass (ms : Nat) (s : Sweeper) (m : Memory) : Sweeper × Memory :=
  if s.ended then (s, m)
  else
    let later := { s with elapsed := s.elapsed + ms }
    if s.due ms then
      if s.orphaned then ({ later with ended := true }, m)
      else (later, (m.purge s.seconds).2)
    else (later, m)

theorem period_pos (s : Sweeper) : 0 < s.period := by
  unfold period
  omega

end Sweeper

/-- Windows in memory with the sweepers that were started, oldest first. -/
structure Swept where
  memory : Memory
  sweepers : List Sweeper

namespace Swept

/-- What can be asked of windows in memory. -/
inductive Op where
  | check (key : Key) (limit seconds : Nat)
  | peek (key : Key) (limit seconds : Nat)
  | close
  | reset
  | purge (seconds : Nat)
  | advance (ms : Nat)
  | sweep (seconds : Nat)
  | replace
  | sweepEnded
deriving DecidableEq

/-- The answer to an operation. -/
inductive Answer where
  | verdict (v : Window.Verdict)
  | count (n : Nat)
  | ended (b : Bool)
  | done
deriving DecidableEq

/-- No windows and no sweeper, at a reading of the clock. -/
def start (now : Nat) : Swept := ⟨.start now, []⟩

/-- Lets the sweepers act in the order in which they were started. -/
def passAll (ms : Nat) : List Sweeper → Memory → List Sweeper × Memory
  | [], m => ([], m)
  | s :: rest, m =>
      let (s, m) := s.pass ms m
      let (rest, m) := passAll ms rest m
      (s :: rest, m)

/-- One operation. -/
def step (w : Swept) : Op → Answer × Swept
  | .check key limit seconds =>
      let (v, m) := w.memory.check key limit seconds
      (.verdict v, { w with memory := m })
  | .peek key limit seconds =>
      let (n, m) := w.memory.peek key limit seconds
      (.count n, { w with memory := m })
  | .close => (.done, { w with memory := w.memory.clear })
  | .reset => (.done, { w with memory := w.memory.clear })
  | .purge seconds =>
      let (n, m) := w.memory.purge seconds
      (.count n, { w with memory := m })
  | .advance ms =>
      let moved := w.memory.advance ms
      let (sweepers, m) := passAll ms w.sweepers moved
      (.count moved.now, ⟨m, sweepers⟩)
  | .sweep seconds => (.done, { w with sweepers := w.sweepers ++ [.start seconds] })
  | .replace =>
      (.done, ⟨.start w.memory.now, w.sweepers.map fun s => { s with orphaned := true }⟩)
  | .sweepEnded =>
      (match w.sweepers.getLast? with
        | some s => .ended s.ended
        | none => .done, w)

/-- The answers of a run, each with the number of keys after it, and the
windows after the run. -/
def run (w : Swept) : List Op → List (Answer × Nat) × Swept
  | [] => ([], w)
  | op :: ops =>
      let (a, w) := w.step op
      let (as, last) := w.run ops
      ((a, w.memory.size) :: as, last)

end Swept

end TenantGate.Limit
