/-
A limiter gives every tenant the same quota, each in a window of its
own. Whether a request is admitted is decided by `consume` alone; a
count of what remains only annotates answers, so one that fails may be
shown as zero.
-/
import TenantGate.Limit.Backend

namespace TenantGate.Limit

open Window (Verdict)

/-- One quota for all tenants over the windows of a backend. -/
structure Limiter (σ : Type) where
  backend : Backend σ
  quota : Quota
  store : σ

namespace Limiter

variable {σ : Type}

/-- Charges a request to a tenant. -/
def consume (tenant : Uuid) (l : Limiter σ) : Except Error Verdict × Limiter σ :=
  let (r, store) := l.backend.check (.ofTenant tenant) l.quota.limit l.quota.seconds l.store
  (r, { l with store })

/-- How many requests a tenant may still make. -/
def remaining (tenant : Uuid) (l : Limiter σ) : Except Error Nat × Limiter σ :=
  let (r, store) := l.backend.peek (.ofTenant tenant) l.quota.limit l.quota.seconds l.store
  (r, { l with store })

/-- The same count, zero where it cannot be had. -/
def remainingOrZero (tenant : Uuid) (l : Limiter σ) : Nat × Limiter σ :=
  let (r, l) := l.remaining tenant
  (match r with
    | .ok n => n
    | .error _ => 0, l)

/-- Lets the backend go. -/
def close (l : Limiter σ) : Limiter σ := { l with store := l.backend.close l.store }

end Limiter

end TenantGate.Limit
