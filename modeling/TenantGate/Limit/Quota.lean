/-
How many requests a tenant may make in how many seconds. Neither count
is zero: a quota is built by `ofCounts`, which refuses zeros, the limit
first.
-/
import TenantGate.Limit.Error

namespace TenantGate.Limit

/-- At most `limit` requests in any `seconds` seconds. -/
structure Quota where
  limit : Nat
  seconds : Nat
  limit_pos : 0 < limit
  seconds_pos : 0 < seconds
deriving DecidableEq

namespace Quota

/-- The error of a limit of zero. -/
def zeroLimit : Error := .invalid "limit must be greater than zero"

/-- The error of a window of zero seconds. -/
def zeroSeconds : Error := .invalid "window_seconds must be greater than zero"

/-- The quota of two counts, if neither is zero. -/
def ofCounts (limit seconds : Nat) : Except Error Quota :=
  if hl : limit = 0 then .error zeroLimit
  else if hs : seconds = 0 then .error zeroSeconds
  else .ok ⟨limit, seconds, Nat.pos_of_ne_zero hl, Nat.pos_of_ne_zero hs⟩

/-- A quota is its two counts. -/
theorem ofCounts_eq_ok_iff {limit seconds : Nat} {q : Quota} :
    ofCounts limit seconds = .ok q ↔ q.limit = limit ∧ q.seconds = seconds := by
  obtain ⟨l, s, hl, hs⟩ := q
  unfold ofCounts
  split
  · simp; omega
  · split
    · simp; omega
    · simp [eq_comm]

end Quota

end TenantGate.Limit
