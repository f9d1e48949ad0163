/-
Why a request to the gateway fails. A fault is a cause with what the
caller may know of it; its code and status classify it, and its message
is for operators: the text that a client sees is made where responses
are made.
-/
import TenantGate.Json.Basic
import TenantGate.Limit.Error

namespace TenantGate

/-- The cause of a failed request. -/
inductive Fault where
  /-- The gateway is set up in a way that cannot work. -/
  | config (detail : String)
  /-- The tenant has used up its quota. -/
  | rateLimitExceeded (retryAfter limit seconds : Nat)
  /-- Something that the gateway needs cannot be reached. -/
  | serviceUnavailable (reason detail : String)
  /-- The request says something that is not allowed. -/
  | validation (code detail : String) (details : Json)
  /-- There is no such thing for this tenant. -/
  | notFound (code detail : String)
  /-- There is no key, or one that nobody has. -/
  | authentication (code detail : String)
  | internal (detail : String)
  | io (detail : String)
deriving Inhabited

namespace Fault

/-- A fault of the request under the common code. -/
def invalid (detail : String) (details : Json) : Fault :=
  .validation "VALIDATION_ERROR" detail details

/-- The code that clients tell faults apart by. -/
def code : Fault → String
  | config _ => "CONFIGURATION_ERROR"
  | rateLimitExceeded .. => "RATE_LIMIT_EXCEEDED"
  | serviceUnavailable .. => "SERVICE_UNAVAILABLE"
  | validation code .. => code
  | notFound code _ => code
  | authentication code _ => code
  | internal _ | io _ => "INTERNAL_SERVER_ERROR"

/-- The status of the response. -/
def status : Fault → Nat
  | rateLimitExceeded .. => 429
  | serviceUnavailable .. => 503
  | validation .. => 400
  | notFound .. => 404
  | authentication .. => 401
  | config _ | internal _ | io _ => 500

/-- The text for operators. -/
def message : Fault → String
  | config detail => "Configuration error: " ++ detail
  | rateLimitExceeded retryAfter .. =>
      "Rate limit exceeded, retry after " ++ toString retryAfter ++ "s"
  | serviceUnavailable reason detail =>
      "Service unavailable (" ++ reason ++ "): " ++ detail
  | validation _ detail _ => "Validation failed: " ++ detail
  | notFound _ detail => "Not found: " ++ detail
  | authentication _ detail => "Authentication failed: " ++ detail
  | internal detail => "Internal error: " ++ detail
  | io detail => "I/O error: " ++ detail

/-- A limit that could not be checked. Of a store's fault only the reason
is kept. -/
def ofLimit : Limit.Error → Fault
  | .unavailable reason _ =>
      .serviceUnavailable reason "Rate limiting service temporarily unavailable"
  | .invalid detail => .config detail

end Fault

end TenantGate
