/-
The name under which a store keeps one window. A tenant's name is made
of its identifier alone, so it is the same however the identifier was
spelled.
-/
import TenantGate.Uuid.Basic

namespace TenantGate.Limit

/-- The name of a window. -/
structure Key where
  text : String
deriving DecidableEq, Inhabited

/-- The window of a tenant. -/
def Key.ofTenant (tenant : Uuid) : Key := ⟨"ratelimit:" ++ tenant.text⟩

end TenantGate.Limit
