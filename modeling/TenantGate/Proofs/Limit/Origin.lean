/-
Where a clock starts to count does not matter.

# Two runs

The same is asked of two windows whose clocks are always apart by one and
the same time, however they go on or back. Every answer is the same, and so
is what is held (`trace_shift`). The clocks may differ by anything as long as
neither of them comes to its last value and starts again, and no more does the
moment at which an oldest record expires (`sums`).

# The argument

An age and a wait are differences of two times, so a log whose records are
all moved by that time answers alike and is moved by it again (`step_shift`).
Nothing is asked of the order of the records. Windows in memory are logs that
read one clock: `Memory.Shifted` says that the rows of two memories belong to
the same keys and hold such logs, and each step keeps it.
-/
import Mathlib.Data.List.Perm.Lattice
import TenantGate.Proofs.Limit.TrackedKeys

namespace TenantGate

open Window (maxCount span)

variable {d : Nat}

-- =============================================================== one log

namespace Window.Log

/-- The log whose records are all later by `d`. -/
def shift (d : Nat) (log : Log) : Log := ⟨log.records.map (· + d)⟩

/-- The same operation at a later reading of the clock. -/
def Op.shift (d : Nat) : Op → Op
  | check now limit seconds => check (now + d) limit seconds
  | remaining now limit seconds => remaining (now + d) limit seconds
  | prune now span => prune (now + d) span

/-- The answers of a run, each with the number of records after it. -/
def trace (log : Log) : List Op → List (Answer × Nat)
  | [] => []
  | op :: ops => ((log.step op).1, (log.step op).2.size) :: (log.step op).2.trace ops

/-- The moment that an operation works out, if it does. -/
def Op.sum? (log : Log) : Op → Option Nat
  | check now limit seconds => log.sum? now limit seconds
  | _ => none

/-- The moments that the refusals of a run work out. -/
def sums (log : Log) : List Op → List Nat
  | [] => []
  | op :: ops => (op.sum? log).toList ++ (log.step op).2.sums ops

theorem size_shift (d : Nat) (log : Log) : (log.shift d).size = log.size :=
  List.length_map _

theorem prune_shift (now span : Nat) (log : Log) :
    (log.shift d).prune (now + d) span = (log.prune now span).shift d := by
  -- an age does not change when both times are moved
  have age : ((fun t => decide (span ≤ now + d - t)) ∘ fun t => t + d)
      = fun t => decide (span ≤ now - t) := by
    funext t
    show decide (span ≤ now + d - (t + d)) = decide (span ≤ now - t)
    rw [Nat.add_sub_add_right]
  unfold prune shift
  rw [List.dropWhile_map, age]

theorem retryAfter_shift {oldest now length : Nat} (fits : oldest + length + d ≤ maxCount) :
    retryAfter (oldest + d) (now + d) length = retryAfter oldest now length := by
  rw [retryAfter_of_fits (by omega), retryAfter_of_fits (by omega), Nat.add_right_comm,
    Nat.add_sub_add_right]

theorem wait_shift {now seconds : Nat} {log : Log}
    (fits : ∀ oldest ∈ log.records.head?, oldest + span seconds + d ≤ maxCount) :
    (log.shift d).wait (now + d) seconds = log.wait now seconds := by
  obtain ⟨_ | ⟨oldest, rest⟩⟩ := log
  · rfl
  · exact retryAfter_shift (fits oldest rfl)

theorem check_shift {now limit seconds : Nat} {log : Log}
    (fits : ∀ sum ∈ log.sum? now limit seconds, sum + d ≤ maxCount) :
    (log.shift d).check (now + d) limit seconds
      = ((log.check now limit seconds).1, (log.check now limit seconds).2.shift d) := by
  unfold check
  dsimp only
  rw [prune_shift, size_shift]
  split
  next =>
    unfold shift
    rw [List.map_append]
    rfl
  next full =>
    rw [sum?_of_full full] at fits
    rw [wait_shift fun oldest first => fits _ (Option.mem_map_of_mem _ first)]

theorem remaining_shift (now limit seconds : Nat) (log : Log) :
    (log.shift d).remaining (now + d) limit seconds
      = ((log.remaining now limit seconds).1, (log.remaining now limit seconds).2.shift d) := by
  unfold remaining
  dsimp only
  rw [prune_shift, size_shift]

theorem step_shift {op : Op} {log : Log} (fits : ∀ sum ∈ op.sum? log, sum + d ≤ maxCount) :
    (log.shift d).step (op.shift d) = ((log.step op).1, (log.step op).2.shift d) := by
  cases op with
  | check now limit seconds =>
      unfold step Op.shift
      dsimp only
      rw [check_shift fits]
  | remaining now limit seconds =>
      unfold step Op.shift
      dsimp only
      rw [remaining_shift]
  | prune now span => exact congrArg (Prod.mk _) (prune_shift now span log)

theorem trace_shift_ops {ops : List Op} {log : Log}
    (fits : ∀ sum ∈ log.sums ops, sum + d ≤ maxCount) :
    (log.shift d).trace (ops.map (·.shift d)) = log.trace ops := by
  induction ops generalizing log with
  | nil => rfl
  | cons op ops ih =>
      have first : ∀ sum ∈ op.sum? log, sum + d ≤ maxCount := fun sum mem =>
        fits sum (List.mem_append_left _ (Option.mem_toList.2 mem))
      have rest : ∀ sum ∈ (log.step op).2.sums ops, sum + d ≤ maxCount := fun sum mem =>
        fits sum (List.mem_append_right _ mem)
      show (((log.shift d).step (op.shift d)).1, ((log.shift d).step (op.shift d)).2.size)
        :: ((log.shift d).step (op.shift d)).2.trace (ops.map (·.shift d)) = _
      rw [step_shift first, size_shift, ih rest]
      rfl

end Window.Log

-- =============================================================== all logs

namespace Limit.Memory

/-- The same operation where the clock shows a later time. -/
def Op.shift (d : Nat) : Op → Op
  | turn now => turn (now + d)
  | op => op

/-- The reading of the clock after an operation, if it does not start
again. -/
def Op.reading (now : Nat) : Op → Nat
  | advance ms => now + ms
  | turn later => later
  | _ => now

/-- The readings of the clock in a run, if it does not start again. -/
def readings (now : Nat) : List Op → List Nat
  | [] => [now]
  | op :: ops => now :: readings (op.reading now) ops

/-- The answers of a run, each with the number of keys after it. -/
def trace (m : Memory) : List Op → List (Answer × Nat)
  | [] => []
  | op :: ops => ((m.step op).1, (m.step op).2.size) :: (m.step op).2.trace ops

/-- The moment that an operation works out, if it does. -/
def Op.sum? (m : Memory) : Op → Option Nat
  | check key limit seconds => m.sum? key limit seconds
  | _ => none

/-- The moments that the refusals of a run work out. -/
def sums (m : Memory) : List Op → List Nat
  | [] => []
  | op :: ops => (op.sum? m).toList ++ (m.step op).2.sums ops

/-- Is the second memory the first one, later by `d`? -/
structure Shifted (d : Nat) (m m' : Memory) : Prop where
  now : m'.now = m.now + d
  rows : ∀ key, m'.logs.get? key = (m.logs.get? key).map (·.shift d)

theorem surviving_shift (now seconds : Nat) (log : Window.Log) :
    surviving (now + d) seconds (log.shift d) = (surviving now seconds log).map (·.shift d) := by
  have emptied : ((log.prune now (span seconds)).shift d).isEmpty
      = (log.prune now (span seconds)).isEmpty := List.isEmpty_map
  unfold surviving
  dsimp only
  rw [Window.Log.prune_shift, emptied]
  split
  next => rfl
  next => rfl

namespace Shifted

variable {m m' : Memory}

theorem start (d now : Nat) : Shifted d (Memory.start now) (Memory.start (now + d)) :=
  ⟨rfl, fun _ => rfl⟩

theorem log (h : Shifted d m m') (key : Key) : m'.log key = (m.log key).shift d := by
  unfold Memory.log
  rw [h.rows]
  cases m.logs.get? key with
  | none => rfl
  | some log => rfl

/-- They have the same keys, and so the same number of them. -/
theorem size (h : Shifted d m m') : m'.size = m.size := by
  have keys : ∀ key, key ∈ m'.logs.keys ↔ key ∈ m.logs.keys := by
    intro key
    rw [Table.mem_keys_iff, Table.mem_keys_iff, h.rows, Option.isSome_map]
  show m'.logs.size = m.logs.size
  rw [← Table.length_keys, ← Table.length_keys]
  exact ((List.perm_ext_iff_of_nodup m'.logs.nodup_keys m.logs.nodup_keys).2 keys).length_eq

theorem put (h : Shifted d m m') (key : Key) (log : Window.Log) :
    Shifted d { m with logs := m.logs.put key log }
      { m' with logs := m'.logs.put key (log.shift d) } := by
  refine ⟨h.now, fun other => ?_⟩
  show (m'.logs.put key (log.shift d)).get? other = ((m.logs.put key log).get? other).map _
  rw [Table.get?_put, Table.get?_put, h.rows]
  split
  next => rfl
  next => rfl

theorem check (h : Shifted d m m') {key : Key} {limit seconds : Nat}
    (fits : ∀ sum ∈ m.sum? key limit seconds, sum + d ≤ maxCount) :
    (m'.check key limit seconds).1 = (m.check key limit seconds).1
      ∧ Shifted d (m.check key limit seconds).2 (m'.check key limit seconds).2 := by
  have same := Window.Log.check_shift fits
  rw [← h.now, ← h.log] at same
  unfold Memory.check
  rw [same]
  exact ⟨rfl, h.put key _⟩

theorem peek (h : Shifted d m m') (key : Key) (limit seconds : Nat) :
    (m'.peek key limit seconds).1 = (m.peek key limit seconds).1
      ∧ Shifted d (m.peek key limit seconds).2 (m'.peek key limit seconds).2 := by
  unfold Memory.peek
  rw [h.rows]
  cases m.logs.get? key with
  | none => exact ⟨rfl, h⟩
  | some log =>
      have same := Window.Log.remaining_shift (d := d) m.now limit seconds log
      rw [← h.now] at same
      dsimp only [Option.map_some]
      rw [same]
      exact ⟨rfl, h.put key _⟩

theorem purge (h : Shifted d m m') (seconds : Nat) :
    (m'.purge seconds).1 = (m.purge seconds).1
      ∧ Shifted d (m.purge seconds).2 (m'.purge seconds).2 := by
  have left : Shifted d (m.purge seconds).2 (m'.purge seconds).2 := by
    refine ⟨h.now, fun key => ?_⟩
    show (m'.logs.filterMap fun _ log => surviving m'.now seconds log).get? key
      = ((m.logs.filterMap fun _ log => surviving m.now seconds log).get? key).map _
    rw [Table.get?_filterMap, Table.get?_filterMap, h.rows, h.now]
    cases m.logs.get? key with
    | none => rfl
    | some log => exact surviving_shift m.now seconds log
  refine ⟨?_, left⟩
  show m'.size - (m'.purge seconds).2.size = m.size - (m.purge seconds).2.size
  rw [h.size, left.size]

theorem clear (h : Shifted d m m') : Shifted d m.clear m'.clear := ⟨h.now, fun _ => rfl⟩

theorem advance (h : Shifted d m m') {ms : Nat} (fits : m.now + ms + d ≤ maxCount) :
    Shifted d (m.advance ms) (m'.advance ms) := by
  have fits' : m'.now + ms ≤ maxCount := by
    rw [h.now]
    omega
  refine ⟨?_, h.rows⟩
  rw [now_advance fits', now_advance (by omega), h.now, Nat.add_right_comm]

/-- A step is answered alike, and the clocks stay apart. -/
theorem step (h : Shifted d m m') {op : Op} (fits : op.reading m.now + d ≤ maxCount)
    (sums : ∀ sum ∈ op.sum? m, sum + d ≤ maxCount) :
    (m'.step (op.shift d)).1 = (m.step op).1
      ∧ Shifted d (m.step op).2 (m'.step (op.shift d)).2 := by
  cases op with
  | check key limit seconds =>
      obtain ⟨answer, left⟩ := h.check sums
      exact ⟨congrArg Answer.verdict answer, left⟩
  | peek key limit seconds =>
      obtain ⟨answer, left⟩ := h.peek key limit seconds
      exact ⟨congrArg Answer.count answer, left⟩
  | purge seconds =>
      obtain ⟨answer, left⟩ := h.purge seconds
      exact ⟨congrArg Answer.count answer, left⟩
  | close | reset => exact ⟨rfl, h.clear⟩
  | advance ms => exact ⟨rfl, h.advance fits⟩
  | turn later => exact ⟨rfl, rfl, h.rows⟩

end Shifted

theorem now_step {m : Memory} {op : Op} (fits : op.reading m.now ≤ maxCount) :
    (m.step op).2.now = op.reading m.now := by
  cases op with
  | peek key limit seconds => exact now_peek key limit seconds m
  | advance ms => exact now_advance fits
  | _ => rfl

theorem Shifted.trace_eq {m m' : Memory} (h : Shifted d m m') {ops : List Op}
    (fits : ∀ now ∈ readings m.now ops, now + d ≤ maxCount)
    (sums : ∀ sum ∈ m.sums ops, sum + d ≤ maxCount) :
    m'.trace (ops.map (·.shift d)) = m.trace ops := by
  induction ops generalizing m m' with
  | nil => rfl
  | cons op ops ih =>
      have rest : ∀ now ∈ readings (op.reading m.now) ops, now + d ≤ maxCount :=
        fun now mem => fits now (List.mem_cons_of_mem _ mem)
      have next : op.reading m.now + d ≤ maxCount := rest _ (by
        cases ops with
        | nil => exact List.mem_cons_self
        | cons => exact List.mem_cons_self)
      obtain ⟨answer, left⟩ := h.step next fun sum mem =>
        sums sum (List.mem_append_left _ (Option.mem_toList.2 mem))
      have clock : (m.step op).2.now = op.reading m.now :=
        now_step ((Nat.le_add_right _ d).trans next)
      rw [← clock] at rest
      show ((m'.step (op.shift d)).1, (m'.step (op.shift d)).2.size)
        :: (m'.step (op.shift d)).2.trace (ops.map (·.shift d)) = _
      rw [answer, left.size, ih left rest fun sum mem => sums sum (List.mem_append_right _ mem)]
      rfl

end Limit.Memory

-- ============================================================ the theorem

/-- Readings of the clock that are all later by `d` change no answer, no
length of a log and no number of keys: not of one log, and not of windows in
memory while neither clock starts again, if 64 bits hold the moments that the
refusals of both runs work out. -/
theorem trace_shift (d : Nat) :
    (∀ ops : List Window.Log.Op,
      (∀ sum ∈ Window.Log.empty.sums ops, sum + d ≤ maxCount) →
        Window.Log.empty.trace (ops.map (·.shift d)) = Window.Log.empty.trace ops)
    ∧ ∀ (now : Nat) (ops : List Limit.Memory.Op),
      (∀ reading ∈ Limit.Memory.readings now ops, reading + d ≤ maxCount) →
      (∀ sum ∈ (Limit.Memory.start now).sums ops, sum + d ≤ maxCount) →
        (Limit.Memory.start (now + d)).trace (ops.map (·.shift d))
          = (Limit.Memory.start now).trace ops :=
  ⟨fun _ sums => Window.Log.trace_shift_ops sums,
    fun now _ fits sums => (Limit.Memory.Shifted.start d now).trace_eq fits sums⟩

/-- A clock that goes back between two requests, and one an hour ahead of
it. -/
theorem trace_shift_hour :
    let log : List Window.Log.Op := [.check 5000 1 60, .check 1000 1 60, .prune 64999 60000,
      .remaining 65000 1 60]
    let ops : List Limit.Memory.Op := [.check ⟨"k"⟩ 2 60, .turn 1000, .check ⟨"k"⟩ 2 60,
      .check ⟨"k"⟩ 2 60, .advance 64000, .peek ⟨"k"⟩ 2 60, .purge 60]
    (Window.Log.empty.sums log = [65000]
        ∧ Window.Log.empty.trace (log.map (·.shift 3600000))
          = [(.verdict (.admitted 0), 1), (.verdict (.denied 64), 1), (.pruned, 1),
            (.count 1, 0)])
      ∧ (∀ reading ∈ Limit.Memory.readings 5000 ops, reading + 3600000 ≤ maxCount)
      ∧ (Limit.Memory.start 5000).sums ops = [65000]
      ∧ (Limit.Memory.start 3605000).trace (ops.map (·.shift 3600000))
        = [(.verdict (.admitted 1), 1), (.done, 1), (.verdict (.admitted 0), 1),
          (.verdict (.denied 64), 1), (.done, 1), (.count 2, 1), (.count 1, 0)] := by
  intro log ops
  have log_sums : Window.Log.empty.sums log = [65000] := by decide
  have fits : ∀ reading ∈ Limit.Memory.readings 5000 ops, reading + 3600000 ≤ maxCount := by
    decide
  have sums : (Limit.Memory.start 5000).sums ops = [65000] := by decide +kernel
  refine ⟨⟨log_sums, ?_⟩, fits, sums, ?_⟩
  · rw [(trace_shift 3600000).1 log (by rw [log_sums]; decide)]
    decide
  · rw [(trace_shift 3600000).2 5000 ops fits (by rw [sums]; decide)]
    decide +kernel

end TenantGate
