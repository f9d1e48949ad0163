/-
What happens to the log of each key of the windows in memory.

`Memory.log` is the view: a key without a row has the empty log. Each
step has one equation that says what it does to this view, and from here
on nobody opens the table. In the view a count prunes and a purge prunes
and neither does more: whether a row is there or gone shows in the number
of keys alone.

`Memory.Tracks` says that each log tracks the ledger of its key, all on
the memory's one clock. The steps keep it: the lemmas lift those of
`Log.Tracks` from one log to all of them. Sweepers purge in the
background, so what every purge keeps, sweepers keep (`passAll_keeps`).
-/
import Mathlib.Logic.Function.Basic
import TenantGate.Limit.Sweeper
import TenantGate.Proofs.Window.Tracks

namespace TenantGate.Limit

open Function (update update_of_ne update_self)
open Window (Ledger Log span)

namespace Memory

-- ================================================ the view, step by step

theorem log_check (key other : Key) (limit seconds : Nat) (m : Memory) :
    (m.check key limit seconds).2.log other
      = if other = key then ((m.log key).check m.now limit seconds).2
        else m.log other := by
  show ((m.logs.put key _).get? other).getD .empty = _
  rw [Table.get?_put]
  by_cases h : other = key
  · rw [if_pos h, if_pos h]
    rfl
  · rw [if_neg h, if_neg h]
    rfl

theorem check_eq (key : Key) (limit seconds : Nat) (m : Memory) :
    (m.check key limit seconds).1 = ((m.log key).check m.now limit seconds).1 := rfl

/-- A count is one of the log, also where there is none. -/
theorem peek_eq (key : Key) (limit seconds : Nat) (m : Memory) :
    (m.peek key limit seconds).1 = ((m.log key).remaining m.now limit seconds).1 := by
  unfold peek log
  cases m.logs.get? key with
  | none => rfl
  | some log => rfl

theorem log_peek (key other : Key) (limit seconds : Nat) (m : Memory) :
    (m.peek key limit seconds).2.log other
      = if other = key then (m.log key).prune m.now (span seconds) else m.log other := by
  unfold peek
  cases row : m.logs.get? key with
  | none =>
      dsimp only
      split
      next h =>
        rw [h, log, row]
        rfl
      next => rfl
  | some log =>
      show ((m.logs.put key _).get? other).getD .empty = _
      rw [Table.get?_put]
      by_cases h : other = key
      · rw [if_pos h, if_pos h, Memory.log, row]
        rfl
      · rw [if_neg h, if_neg h]
        rfl

/-- A key that a purge takes away has nothing left to show. -/
theorem log_purge (seconds : Nat) (key : Key) (m : Memory) :
    (m.purge seconds).2.log key = (m.log key).prune m.now (span seconds) := by
  show ((m.logs.filterMap _).get? key).getD Log.empty = _
  rw [Table.get?_filterMap, log]
  cases m.logs.get? key with
  | none => rfl
  | some log =>
      show (surviving m.now seconds log).getD Log.empty = log.prune m.now (span seconds)
      unfold surviving
      dsimp only
      split
      next none_left =>
        rw [Log.isEmpty, List.isEmpty_iff] at none_left
        exact congrArg Log.mk none_left.symm
      next => rfl

theorem now_peek (key : Key) (limit seconds : Nat) (m : Memory) :
    (m.peek key limit seconds).2.now = m.now := by
  unfold peek
  cases m.logs.get? key with
  | none => rfl
  | some log => rfl

theorem now_advance {ms : Nat} {m : Memory} (fits : m.now + ms ≤ Window.maxCount) :
    (m.advance ms).now = m.now + ms :=
  Nat.mod_eq_of_lt (Nat.lt_of_le_of_lt fits (by decide))

/-- The moment that a check works out, if it does. -/
def sum? (key : Key) (limit seconds : Nat) (m : Memory) : Option Nat :=
  (m.log key).sum? m.now limit seconds

-- ========================================================= all the logs

/-- Each log tracks the ledger of its key. -/
def Tracks (span : Nat) (ledgers : Key → Ledger) (m : Memory) : Prop :=
  ∀ key, (m.log key).Tracks m.now span (ledgers key)

namespace Tracks

variable {length seconds : Nat} {ledgers : Key → Ledger} {m : Memory}

theorem start (length now : Nat) : Tracks length (fun _ => .empty) (Memory.start now) :=
  fun _ => .empty now length

theorem clear (length : Nat) (m : Memory) : Tracks length (fun _ => .empty) m.clear :=
  fun _ => .empty m.now length

theorem at_later (h : Tracks length ledgers m) {now : Nat} (le : m.now ≤ now) :
    Tracks length ledgers { m with now } :=
  fun key => (h key).later le

theorem purge (h : Tracks length ledgers m) (le : length ≤ span seconds) :
    Tracks length ledgers (m.purge seconds).2 := by
  intro key
  rw [log_purge]
  exact (h key).prune le

theorem peek (h : Tracks (span seconds) ledgers m) (key : Key) (limit : Nat) :
    (m.peek key limit seconds).1 = (ledgers key).remaining m.now limit (span seconds)
      ∧ Tracks (span seconds) ledgers (m.peek key limit seconds).2 := by
  refine ⟨by rw [peek_eq, (h key).remaining], fun other => ?_⟩
  rw [log_peek, now_peek]
  split
  next e =>
    rw [e]
    exact (h key).prune (Nat.le_refl _)
  next => exact h other

theorem check (h : Tracks (span seconds) ledgers m) (key : Key) (limit : Nat) :
    Tracks (span seconds)
      (update ledgers key ((ledgers key).check m.now limit (span seconds) seconds).2)
      (m.check key limit seconds).2 := by
  intro other
  rw [log_check]
  by_cases e : other = key
  · rw [if_pos e, e, update_self]
    exact (h key).check limit
  · rw [if_neg e, update_of_ne e]
    exact h other

end Tracks

end Memory

-- ============================================================ sweepers

namespace Sweeper

theorem seconds_pass (ms : Nat) (s : Sweeper) (m : Memory) :
    (s.pass ms m).1.seconds = s.seconds := by
  unfold pass
  split
  next => rfl
  next =>
    dsimp only
    split
    next =>
      split
      next => rfl
      next => rfl
    next => rfl

/-- All that a sweeper does to windows is to purge them. -/
theorem pass_cases (ms : Nat) (s : Sweeper) (m : Memory) :
    (s.pass ms m).2 = m ∨ (s.pass ms m).2 = (m.purge s.seconds).2 := by
  unfold pass
  split
  next => exact Or.inl rfl
  next =>
    dsimp only
    split
    next =>
      split
      next => exact Or.inl rfl
      next => exact Or.inr rfl
    next => exact Or.inl rfl

end Sweeper

/-- What each sweeper's purge keeps, all sweepers together keep. -/
theorem Swept.passAll_keeps {P : Memory → Prop} (ms : Nat) {sweepers : List Sweeper}
    (keeps : ∀ s ∈ sweepers, ∀ m, P m → P (m.purge s.seconds).2) {m : Memory} (h : P m) :
    P (passAll ms sweepers m).2 := by
  induction sweepers generalizing m with
  | nil => exact h
  | cons s rest ih =>
      show P (passAll ms rest (s.pass ms m).2).2
      refine ih (fun s' hs' => keeps s' (List.mem_cons_of_mem _ hs')) ?_
      rcases s.pass_cases ms m with e | e
      · rw [e]
        exact h
      · rw [e]
        exact keeps s List.mem_cons_self m h

theorem Swept.seconds_passAll (ms : Nat) (sweepers : List Sweeper) (m : Memory) :
    (passAll ms sweepers m).1.map Sweeper.seconds = sweepers.map Sweeper.seconds := by
  induction sweepers generalizing m with
  | nil => rfl
  | cons s rest ih =>
      show (s.pass ms m).1.seconds :: (passAll ms rest (s.pass ms m).2).1.map Sweeper.seconds
        = s.seconds :: rest.map Sweeper.seconds
      rw [ih, Sweeper.seconds_pass]

end TenantGate.Limit
