/-
The moment that a refusal computes.

# Two readings of a wait

A refusal takes the time of the oldest record that counts, adds the length of
the window, and takes the present time off again. The sum in between is the
moment at which that record expires, and a counter of 64 bits may not reach
it. The length alone is cut where it would be too great; the sum is not, and
starts again at zero.

# How late a clock may be

No record is of a time to come, so the sum is at most the last reading and
the length together. It may also be exactly that: as many requests as the
limit allows, all at the last reading, and one more (`burst`). So the sums of
all runs up to a reading fit exactly if that reading and the length do
(`sums_fit_iff`), which no quota achieves for every reading of the clock.
-/
import TenantGate.Proofs.Limit.InMemory
import TenantGate.Proofs.Limit.Peek
import TenantGate.Proofs.Limit.Sweeping
import TenantGate.Startup

namespace TenantGate.Limit

open InMemory
open Window (Log Verdict maxCount retryAfter span)

namespace Expiry

variable {q : Quota} {tenant : Uuid} {w : Swept} {now r : Nat}

/-- The oldest record that counts when a tenant is charged. -/
def oldest? (q : Quota) (tenant : Uuid) (w : Swept) : Option Nat :=
  ((w.memory.log (.ofTenant tenant)).prune w.memory.now (span q.seconds)).records.head?

/-- What is answered when a tenant is charged. -/
def answer (q : Quota) (tenant : Uuid) (w : Swept) : Except Error Verdict :=
  ((inMemory.limiter q () w).consume tenant).1

/-- In every run that ends by a reading of the clock, a refusal is computed
from a record whose expiry is a 64-bit number. -/
def SumsFit (q : Quota) (latest : Nat) : Prop :=
  ∀ start ops tenant, start + elapsed ops ≤ latest →
    let w := (inMemory.run q (.start start) ops).2
    ∀ r, answer q tenant w = .ok (.denied r) →
      ∃ oldest, oldest? q tenant w = some oldest
        ∧ r = retryAfter oldest w.memory.now (span q.seconds)
        ∧ oldest + span q.seconds ≤ maxCount

theorem answer_eq (q : Quota) (tenant : Uuid) (w : Swept) :
    answer q tenant w
      = .ok ((w.memory.log (.ofTenant tenant)).check w.memory.now q.limit q.seconds).1 := rfl

-- ============================================================= a refusal

/-- A refusal names the wait for the oldest record that counts, since a
limit is not zero and so there is one. -/
theorem exists_oldest (refused : answer q tenant w = .ok (.denied r)) :
    ∃ oldest, oldest? q tenant w = some oldest
      ∧ r = retryAfter oldest w.memory.now (span q.seconds) := by
  rw [answer_eq, Except.ok.injEq] at refused
  unfold Log.check at refused
  dsimp only at refused
  split at refused
  next => cases refused
  next full =>
    unfold oldest?
    cases kept : (w.memory.log (.ofTenant tenant)).prune w.memory.now (span q.seconds) with
    | mk records =>
      rw [kept] at refused full
      cases records with
      | nil => exact absurd q.limit_pos full
      | cons oldest rest =>
          refine ⟨oldest, rfl, ?_⟩
          have wait : r = max (retryAfter oldest w.memory.now (span q.seconds)) 1 :=
            (Verdict.denied.inj refused).symm
          have pos : 1 ≤ retryAfter oldest w.memory.now (span q.seconds) :=
            Nat.le_max_right _ _
          omega

/-- No record is of a time to come. -/
theorem oldest_le {start oldest : Nat} {ops : List InMemory.Op}
    (clock : start + elapsed ops ≤ maxCount)
    (found : oldest? q tenant (inMemory.run q (.start start) ops).2 = some oldest) :
    oldest ≤ start + elapsed ops := by
  have none_yet : Swept.Booked start [] (Swept.start start).memory := by
    intro key t mem
    cases mem
  rw [run_eq] at found
  have fits : start + Swept.elapsed (ops.map (lower q)) ≤ maxCount := by
    rw [elapsed_lower]
    exact clock
  obtain ⟨past, now⟩ := Swept.past_run fits none_yet
  have kept := List.mem_of_mem_head? (Option.mem_def.2 found)
  have mem := (Log.prune_suffix _ _ _).subset kept
  have le := (past _ _ mem).1
  rw [now, elapsed_lower] at le
  exact le

-- =============================================================== a burst

/-- Requests of one tenant, one after the other. -/
def burst (tenant : Uuid) (n : Nat) : List InMemory.Op :=
  List.replicate n (.call () (.consume tenant))

theorem elapsed_burst (tenant : Uuid) (n : Nat) : elapsed (burst tenant n) = 0 := by
  induction n with
  | zero => rfl
  | succ n ih =>
      show 0 + elapsed (burst tenant n) = 0
      rw [ih]

/-- What is of this moment counts. -/
theorem prune_replicate (q : Quota) (now n : Nat) :
    Log.prune now (span q.seconds) ⟨List.replicate n now⟩ = ⟨List.replicate n now⟩ := by
  have pos := Window.span_pos q.seconds_pos
  cases n with
  | zero => rfl
  | succ n =>
      unfold Log.prune
      rw [List.replicate_succ, List.dropWhile_cons_of_neg]
      simp only [decide_eq_true_eq]
      omega

/-- While the limit is not reached, each request of a burst is recorded. -/
theorem burst_recorded {k : Nat} (n : Nat) (room : k + n ≤ q.limit)
    (clock : w.memory.now = now)
    (held : w.memory.log (.ofTenant tenant) = ⟨List.replicate k now⟩) :
    let w' := (inMemory.run q w (burst tenant n)).2
    w'.memory.now = now ∧ w'.memory.log (.ofTenant tenant) = ⟨List.replicate (k + n) now⟩ := by
  induction n generalizing k w with
  | zero => exact ⟨clock, held⟩
  | succ n ih =>
      have recorded : (w.memory.check (.ofTenant tenant) q.limit q.seconds).2.log
          (.ofTenant tenant) = ⟨List.replicate (k + 1) now⟩ := by
        rw [Memory.log_check, if_pos rfl, clock, held]
        unfold Log.check
        dsimp only
        rw [prune_replicate, if_pos, List.replicate_succ']
        show (List.replicate k now).length < q.limit
        rw [List.length_replicate]
        omega
      have next := ih (w := (inMemory.step q w (.call () (.consume tenant))).2)
        (k := k + 1) (by omega) clock recorded
      rw [Nat.add_assoc, Nat.add_comm 1 n] at next
      exact next

/-- One request more than the limit allows is refused, and the oldest record
is of the same moment. -/
theorem refused_after_burst (q : Quota) (tenant : Uuid) (now : Nat) :
    let w := (inMemory.run q (.start now) (burst tenant q.limit)).2
    (∃ r, answer q tenant w = .ok (.denied r)) ∧ oldest? q tenant w = some now := by
  intro w
  have pos := q.limit_pos
  obtain ⟨clock, held⟩ : w.memory.now = now
      ∧ w.memory.log (.ofTenant tenant) = ⟨List.replicate (0 + q.limit) now⟩ :=
    burst_recorded (k := 0) q.limit (by omega) rfl rfl
  have kept : (w.memory.log (.ofTenant tenant)).prune w.memory.now (span q.seconds)
      = ⟨List.replicate q.limit now⟩ := by
    rw [clock, held, Nat.zero_add]
    exact prune_replicate q now q.limit
  constructor
  · rw [answer_eq]
    unfold Log.check
    dsimp only
    rw [kept, if_neg]
    · exact ⟨_, rfl⟩
    · show ¬ (List.replicate q.limit now).length < q.limit
      rw [List.length_replicate]
      exact Nat.lt_irrefl _
  · unfold oldest?
    rw [kept]
    show (List.replicate q.limit now).head? = some now
    rw [List.head?_replicate, if_neg (by omega)]

theorem sumsFit_iff_le {latest : Nat} :
    SumsFit q latest ↔ latest + span q.seconds ≤ maxCount := by
  constructor
  · intro fit
    obtain ⟨⟨r, refused⟩, found⟩ := refused_after_burst q default latest
    have ends : latest + elapsed (burst default q.limit) ≤ latest := by
      rw [elapsed_burst]
      exact Nat.le_refl _
    obtain ⟨oldest, first, -, sum⟩ := fit latest _ default ends r refused
    rw [found, Option.some.injEq] at first
    omega
  · intro fits start ops tenant ends w r refused
    obtain ⟨oldest, found, wait⟩ := exists_oldest refused
    have le := oldest_le (by omega) found
    exact ⟨oldest, found, wait, by omega⟩

-- =========================================================== the theorem

/-- A limiter of accepted settings computes sums that fit, up to a reading of
the clock, exactly if that reading and the window fit together. Whatever the
settings are, there is a reading at which they do not. -/
theorem sums_fit_iff {s : Settings} (accepted : s.check = .ok ()) (start : Nat) :
    ∃ l, s.rateLimit.limiter Memory.backend (.start start) = .ok l
      ∧ (∀ latest, SumsFit l.quota latest
        ↔ latest + span s.rateLimit.windowSeconds ≤ maxCount)
      ∧ ¬ SumsFit l.quota maxCount := by
  obtain ⟨limit_pos, seconds_pos, -⟩ := Settings.check_eq_ok_iff.1 accepted
  let q : Quota := ⟨s.rateLimit.requests, s.rateLimit.windowSeconds, limit_pos, seconds_pos⟩
  have counts : Quota.ofCounts s.rateLimit.requests s.rateLimit.windowSeconds = .ok q :=
    Quota.ofCounts_eq_ok_iff.2 ⟨rfl, rfl⟩
  refine ⟨⟨Memory.backend, q, .start start⟩, ?_, ?_, ?_⟩
  · rw [Settings.RateLimit.limiter, counts]
    rfl
  · exact fun latest => sumsFit_iff_le
  · have pos : 0 < span q.seconds := Window.span_pos seconds_pos
    show ¬ SumsFit q maxCount
    rw [sumsFit_iff_le]
    omega

/-- A hundred requests a minute, up to the middle of all readings. -/
theorem sums_fit_iff_of_default :
    Settings.default.check = .ok ()
      ∧ ∃ l, Settings.default.rateLimit.limiter Memory.backend (.start 0) = .ok l
        ∧ SumsFit l.quota 0x8000000000000000 := by
  have accepted : Settings.default.check = .ok () := rfl
  obtain ⟨l, made, fit, -⟩ := sums_fit_iff accepted 0
  exact ⟨accepted, l, made, (fit 0x8000000000000000).2 (by decide)⟩

/-- One request in the longest window there is. -/
def longest : Settings :=
  { Settings.default with
    rateLimit := { Settings.RateLimit.default with requests := 1, windowSeconds := maxCount } }

/-- These settings are accepted, and a second request one millisecond after
the clock began is refused by way of a sum that 64 bits do not hold: the wait
that is named is one second. -/
theorem sum_does_not_fit :
    longest.check = .ok ()
      ∧ ∃ l, longest.rateLimit.limiter Memory.backend (.start 1) = .ok l
        ∧ (let w := (inMemory.run l.quota (.start 1) [.call () (.consume default)]).2
          answer l.quota default w = .ok (.denied 1)
            ∧ oldest? l.quota default w = some 1
            ∧ 1 + span l.quota.seconds = 0x10000000000000000)
        ∧ ¬ SumsFit l.quota maxCount := by
  refine ⟨rfl, ⟨Memory.backend, ⟨1, maxCount, by decide, by decide⟩, .start 1⟩, rfl, ?_, ?_⟩
  · decide +kernel
  · intro fit
    have sum := sumsFit_iff_le.1 fit
    exact absurd sum (by decide)

end Expiry

end TenantGate.Limit
