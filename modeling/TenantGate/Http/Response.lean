/-
What is sent back over HTTP. A fault becomes a response with a code, a
message for the client and details; of faults of the gateway's own the
client learns nothing but that there was one.
-/
import TenantGate.Fault

namespace TenantGate.Http

/-- The body of a response. -/
inductive Content where
  | none
  | json (value : Json)
  | text (s : String)
deriving Inhabited

/-- A status, headers with names in lower case, and a body. -/
structure Response where
  status : Nat
  headers : List (String × String)
  content : Content
deriving Inhabited

namespace Response

/-- A response without a body. -/
def empty (status : Nat) (headers : List (String × String)) : Response :=
  ⟨status, headers, .none⟩

/-- A response with a JSON body. -/
def json (status : Nat) (headers : List (String × String)) (value : Json) : Response :=
  ⟨status, ("content-type", "application/json") :: headers, .json value⟩

/-- A response with a text. -/
def text (status : Nat) (s : String) : Response :=
  ⟨status, [("content-type", "text/plain; charset=utf-8")], .text s⟩

/-- The value of a header. -/
def header? (name : String) (r : Response) : Option String :=
  (r.headers.find? fun h => h.1 = name).map Prod.snd

/-- The same response as far as it goes without a body. -/
def headOnly (r : Response) : Response := { r with content := .none }

/-- What a client is told of a fault: a message and details. -/
def explanation : Fault → String × Json
  | .rateLimitExceeded retryAfter limit seconds =>
      ("Rate limit exceeded. Try again in " ++ toString retryAfter ++ " seconds.",
        .object [("limit", .nat limit), ("window_seconds", .nat seconds),
          ("retry_after_seconds", .nat retryAfter)])
  | .serviceUnavailable reason detail => (detail, .object [("reason", reason)])
  | .validation _ detail details => (detail, details)
  | .notFound _ detail => (detail, .null)
  | .authentication _ detail => (detail, .null)
  | .config _ | .internal _ | .io _ => ("An unexpected error occurred", .null)

/-- The wait that a response names in a header. -/
def waitHeader : Fault → List (String × String)
  | .rateLimitExceeded retryAfter .. => [("retry-after", toString retryAfter)]
  | _ => []

/-- The response to a fault. -/
def ofFault (e : Fault) : Response :=
  let (message, details) := explanation e
  json e.status (waitHeader e)
    (.object [("error_code", e.code), ("message", message), ("details", details)])

end Response

end TenantGate.Http
