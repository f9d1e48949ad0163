/-
The answer of a check: either there was room and the request is
recorded, or there was none and a wait is named. A refusal is an
ordinary value and no error.
-/
namespace TenantGate.Window

/-- Admitted with room for `remaining` more, or denied with `retryAfter`
seconds to wait. -/
inductive Verdict where
  | admitted (remaining : Nat)
  | denied (retryAfter : Nat)
deriving DecidableEq, Inhabited

namespace Verdict

/-- A refusal that names a wait of at least one second. -/
def deny (seconds : Nat) : Verdict := .denied (max seconds 1)

/-- Was the request admitted? -/
def allowed : Verdict → Bool
  | admitted _ => true
  | denied _ => false

/-- How many more requests the window has room for. -/
def remaining : Verdict → Nat
  | admitted n => n
  | denied _ => 0

/-- The seconds to wait; none after an admission. -/
def retryAfter : Verdict → Nat
  | admitted _ => 0
  | denied n => n

theorem eq_admitted {v : Verdict} (allowed : v.allowed = true) :
    ∃ left, v = .admitted left := by
  cases v with
  | admitted left => exact ⟨left, rfl⟩
  | denied => cases allowed

theorem eq_denied {v : Verdict} (refused : v.allowed = false) : ∃ wait, v = .denied wait := by
  cases v with
  | admitted => cases refused
  | denied wait => exact ⟨wait, rfl⟩

theorem one_le_retryAfter_deny (n : Nat) : 1 ≤ (deny n).retryAfter :=
  Nat.le_max_right ..

end Verdict

end TenantGate.Window
