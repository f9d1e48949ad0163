/-
The wait that a refusal names is exact.

A ledger refuses when `limit` admissions are live, and if it is `Sparse`
there are never more, so all of them are needed for the refusal. Then
room comes back when the oldest of them expires and not before: the
others expire no earlier, and one place is enough. The wait is the whole
number of seconds up to that moment, rounded up. Of the time between the
last whole second before it and the first one after, nothing is said:
the moment lies in between.
-/
import TenantGate.Proofs.Window.Ledger

namespace TenantGate.Window.Ledger

variable {now limit length seconds : Nat} {l : Ledger}

/-- Where as much is live as the limit allows, the refusal names the
seconds, rounded up, until the oldest of it expires. -/
theorem wait_of_live (seconds : Nat) {oldest : Nat} {rest : List Nat} (upTo : l.UpTo now)
    (live : l.live now length = oldest :: rest) :
    l.wait now length seconds = (oldest + length - now + 999) / 1000
      ∧ now < oldest + length ∧ oldest ≤ now ∧ ∀ t ∈ rest, oldest ≤ t := by
  have young : oldest ∈ l.live now length := live ▸ List.mem_cons_self
  obtain ⟨mem, young⟩ := List.mem_filter.1 young
  rw [decide_eq_true_eq] at young
  have past := upTo.past oldest mem
  have ordered : (l.live now length).Pairwise (· ≤ ·) :=
    upTo.ordered.sublist List.filter_sublist
  have least : (l.live now length).min? = some oldest := by
    rw [upTo.min?_live, live]
    rfl
  rw [live, List.pairwise_cons] at ordered
  refine ⟨?_, by omega, past, ordered.1⟩
  unfold wait
  rw [least]
  show max 1 ((oldest + length - now) ⌈/⌉ 1000) = _
  rw [Nat.ceilDiv_eq_add_pred_div]
  omega

/-- What a refusal names is at least a second and at most the window, or a
second if the window is shorter. -/
theorem wait_bounds (upTo : l.UpTo now) (short : length ≤ seconds * 1000) :
    1 ≤ l.wait now length seconds ∧ l.wait now length seconds ≤ max seconds 1 := by
  cases live : l.live now length with
  | nil =>
      unfold wait
      rw [live]
      exact ⟨Nat.le_max_right _ _, Nat.le_refl _⟩
  | cons oldest rest =>
      obtain ⟨wait, young, past, -⟩ := wait_of_live seconds upTo live
      rw [wait]
      omega

/-- A refusal names between one second and the whole window. After that
many seconds or more there is room; up to one second less there is none. -/
theorem wait_exact (upTo : l.UpTo now) (sparse : l.Sparse limit length)
    (limit_pos : 0 < limit) (short : length ≤ seconds * 1000)
    (refused : (l.check now limit length seconds).1.allowed = false) :
    let r := l.wait now length seconds
    1 ≤ r ∧ r ≤ seconds
      ∧ (∀ m, now + 1000 * r ≤ m → (l.check m limit length seconds).1.allowed = true)
      ∧ ∀ m, now ≤ m → m ≤ now + 1000 * (r - 1) →
          (l.check m limit length seconds).1.allowed = false := by
  intro r
  have full : limit ≤ (l.live now length).length := by
    rw [← Bool.not_eq_true, allowed_check_iff_room] at refused
    exact Nat.le_of_not_lt refused
  have most := length_live_le sparse upTo.past
  cases live : l.live now length with
  | nil =>
      rw [live, List.length_nil] at full
      omega
  | cons oldest rest =>
      obtain ⟨wait, young, past, after⟩ := wait_of_live seconds upTo live
      have seconds_left : r = (oldest + length - now + 999) / 1000 := wait
      rw [live, List.length_cons] at full most
      refine ⟨by omega, by omega, fun m late => ?_, fun m le early => ?_⟩
      · -- the oldest has expired, and there were no more than `limit`
        have le : now ≤ m := Nat.le_trans (Nat.le_add_right _ _) late
        rw [allowed_check_iff_room, live_of_le le, live,
          List.filter_cons_of_neg (by simp only [decide_eq_true_eq]; omega)]
        have := List.length_filter_le (fun t => decide (m - t < length)) rest
        omega
      · -- nothing has expired
        rw [← Bool.not_eq_true, allowed_check_iff_room, live_of_le le, live,
          List.filter_eq_self.2 fun t ht => ?_, List.length_cons]
        · omega
        · have : oldest ≤ t := by
            rcases List.mem_cons.1 ht with rfl | ht
            · exact Nat.le_refl _
            · exact after t ht
          rw [decide_eq_true_eq]
          omega

end TenantGate.Window.Ledger
