/-
The sliding window of one key: the times, in milliseconds, at which
requests were admitted, in the order of admission.

Records leave the log from the front only, and only while the front one
is old enough, so what is held is always a tail of what was admitted.
While readings never go backwards the records stand in order and this
drops exactly the expired ones; if the clock did go backwards an old
record may wait behind a young one.

A window of very many seconds is cut at the largest 64-bit number of
milliseconds. The moment at which a record expires is not cut: it is a
64-bit sum that starts again at zero, unless the sums are checked, which
ends the program there.
-/
import TenantGate.Window.Verdict

namespace TenantGate.Window

/-- The largest 64-bit count. -/
def maxCount : Nat := 0xFFFFFFFFFFFFFFFF

/-- The length in milliseconds of a window of `seconds`, cut at `maxCount`. -/
def span (seconds : Nat) : Nat := min (seconds * 1000) maxCount

/-- Whole seconds, rounded up and at least one, until a record of time
`oldest` is `span` old, by a sum of 64 bits. -/
def retryAfter (oldest now span : Nat) : Nat :=
  max (((oldest + span) % 0x10000000000000000 - now + 999) / 1000) 1

theorem retryAfter_of_fits {oldest now span : Nat} (fits : oldest + span ≤ maxCount) :
    retryAfter oldest now span = max ((oldest + span - now + 999) / 1000) 1 := by
  unfold retryAfter
  rw [Nat.mod_eq_of_lt (Nat.lt_of_le_of_lt fits (by decide))]

/-- The admission times held for one key, oldest first. -/
structure Log where
  records : List Nat
deriving DecidableEq, Inhabited

namespace Log

/-- The log that holds nothing. -/
def empty : Log := ⟨[]⟩

/-- The number of records held. -/
def size (log : Log) : Nat := log.records.length

/-- Is nothing held? -/
def isEmpty (log : Log) : Bool := log.records.isEmpty

/-- Drops records from the front while they are `span` old or older. -/
def prune (now span : Nat) (log : Log) : Log :=
  ⟨log.records.dropWhile fun t => span ≤ now - t⟩

/-- The wait that a full log names: until its oldest record expires, or
the whole window if it holds nothing. -/
def wait (now seconds : Nat) (log : Log) : Nat :=
  match log.records with
  | [] => max seconds 1
  | oldest :: _ => retryAfter oldest now (span seconds)

/-- Prunes, then admits and records a request if fewer than `limit`
records are left. -/
def check (now limit seconds : Nat) (log : Log) : Verdict × Log :=
  let kept := log.prune now (span seconds)
  if kept.size < limit then
    (.admitted (limit - kept.size - 1), ⟨kept.records ++ [now]⟩)
  else
    (.deny (kept.wait now seconds), kept)

/-- Prunes, then counts for how many more requests there is room. -/
def remaining (now limit seconds : Nat) (log : Log) : Nat × Log :=
  let kept := log.prune now (span seconds)
  (limit - kept.size, kept)

-- ============================================================== runs

/-- What can be asked of a log. -/
inductive Op where
  | check (now limit seconds : Nat)
  | remaining (now limit seconds : Nat)
  | prune (now span : Nat)
deriving DecidableEq

/-- What a log answers. -/
inductive Answer where
  | verdict (v : Verdict)
  | count (n : Nat)
  | pruned
deriving DecidableEq

/-- One operation. -/
def step (log : Log) : Op → Answer × Log
  | .check now limit seconds =>
      let (v, log) := log.check now limit seconds
      (.verdict v, log)
  | .remaining now limit seconds =>
      let (n, log) := log.remaining now limit seconds
      (.count n, log)
  | .prune now span => (.pruned, log.prune now span)

/-- The answers of a run and the log after it. -/
def run (log : Log) : List Op → List Answer × Log
  | [] => ([], log)
  | op :: ops =>
      let (a, log) := log.step op
      let (as, log) := log.run ops
      (a :: as, log)

-- ============================================================= facts

/-- What is kept is a tail of what was held. -/
theorem prune_suffix (now span : Nat) (log : Log) :
    (log.prune now span).records <:+ log.records :=
  List.dropWhile_suffix _

/-- A denial names at least one second. -/
theorem one_le_wait (now seconds : Nat) (log : Log) : 1 ≤ log.wait now seconds := by
  unfold wait
  split
  · exact Nat.le_max_right ..
  · exact Nat.le_max_right ..

theorem one_le_of_denied {now limit seconds wait : Nat} {log : Log}
    (denied : (log.check now limit seconds).1 = .denied wait) : 1 ≤ wait := by
  unfold check at denied
  dsimp only at denied
  split at denied
  next => cases denied
  next =>
    cases denied
    exact Nat.le_max_right ..

/-- A request is admitted exactly if pruning leaves fewer than `limit`
records. -/
theorem allowed_check_iff {now limit seconds : Nat} {log : Log} :
    (log.check now limit seconds).1.allowed
      ↔ (log.prune now (span seconds)).size < limit := by
  simp only [check]
  split <;> simp_all [Verdict.allowed, Verdict.deny]

end Log

end TenantGate.Window
