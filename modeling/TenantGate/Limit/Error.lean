/-
Why a limit could not be checked. This is never a refusal: a store that
cannot be asked has neither admitted nor denied anything.
-/
namespace TenantGate.Limit

/-- The store could not answer, or the limit cannot be set up. -/
inductive Error where
  /-- `reason` is a fixed code, `detail` the text of the fault. -/
  | unavailable (reason detail : String)
  | invalid (detail : String)
deriving DecidableEq, Inhabited

namespace Error

def message : Error → String
  | unavailable reason detail =>
      "rate limit backend unavailable (" ++ reason ++ "): " ++ detail
  | invalid detail => "invalid rate limit configuration: " ++ detail

/-- Is it the store that failed? -/
def isUnavailable : Error → Bool
  | unavailable .. => true
  | invalid _ => false

end Error

end TenantGate.Limit
