/-
Windows kept in memory: one log per key, and the clock that all of them
read, in milliseconds.

A check makes the log of its key, also when it denies; a count of the
room never does. `purge` drops what has expired and then the keys
without records. The clock is a 64-bit counter and starts again after
its last value.
-/
import TenantGate.Limit.Backend
import TenantGate.Table
import TenantGate.Window.Log

namespace TenantGate.Limit

open Window (Log Verdict span)

/-- The logs by key, and the reading of the clock. -/
structure Memory where
  logs : Table Key Log
  now : Nat

namespace Memory

/-- Nothing kept yet, at a reading of the clock. -/
def start (now : Nat) : Memory := ⟨∅, now⟩

instance : Inhabited Memory := ⟨start 0⟩

/-- The log of a key, or an empty one. -/
def log (key : Key) (m : Memory) : Log := (m.logs.get? key).getD .empty

/-- The number of keys that have a log. -/
def size (m : Memory) : Nat := m.logs.size

/-- Admits and records a request on `key` if there is room. -/
def check (key : Key) (limit seconds : Nat) (m : Memory) : Verdict × Memory :=
  let (v, log) := (m.log key).check m.now limit seconds
  (v, { m with logs := m.logs.put key log })

/-- Counts the room on `key`; a key without a log has all of it. -/
def peek (key : Key) (limit seconds : Nat) (m : Memory) : Nat × Memory :=
  match m.logs.get? key with
  | none => (limit, m)
  | some log =>
      let (room, log) := log.remaining m.now limit seconds
      (room, { m with logs := m.logs.put key log })

/-- Forgets all logs. -/
def clear (m : Memory) : Memory := { m with logs := ∅ }

/-- What is left of a log after a purge, if anything. -/
def surviving (now seconds : Nat) (log : Log) : Option Log :=
  let kept := log.prune now (span seconds)
  if kept.isEmpty then none else some kept

/-- Drops expired records, then keys without records; counts those keys. -/
def purge (seconds : Nat) (m : Memory) : Nat × Memory :=
  let kept := m.logs.filterMap fun _ log => surviving m.now seconds log
  (m.logs.size - kept.size, { m with logs := kept })

/-- Moves the clock forward. -/
def advance (ms : Nat) (m : Memory) : Memory :=
  { m with now := (m.now + ms) % 0x10000000000000000 }

/-- Windows in memory as a backend; its steps never fail. -/
def backend : Backend Memory where
  check key limit seconds m :=
    let (v, m) := m.check key limit seconds
    (.ok v, m)
  peek key limit seconds m :=
    let (room, m) := m.peek key limit seconds
    (.ok room, m)
  close := clear

end Memory

end TenantGate.Limit
