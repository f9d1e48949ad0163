/-
The keys by which tenants are known. Several keys may name one tenant;
a key that is listed twice names the tenant of its last entry.
-/
import TenantGate.Fault
import TenantGate.Table
import TenantGate.Uuid.Basic

namespace TenantGate.Directory

/-- The tenants by key. -/
structure Keys where
  table : Table String Uuid

namespace Keys

/-- The directory of a list of keys and tenants. -/
def ofList (entries : List (String × Uuid)) : Keys := ⟨.ofList entries⟩

/-- Nobody has this key. -/
def unknown : Fault := .authentication "INVALID_API_KEY" "The provided API key is invalid"

/-- The tenant of a key. -/
def resolve (key : String) (d : Keys) : Except Fault Uuid :=
  match d.table.get? key with
  | some tenant => .ok tenant
  | none => .error unknown

end Keys

end TenantGate.Directory
