/-
The request for an execution in the body of an HTTP request. The media
type is looked at first, then the length, then the text.
-/
import TenantGate.Execution.RequestText
import TenantGate.Http.MediaType
import TenantGate.Http.Request

namespace TenantGate.Http.Body

/-- The greatest number of bytes that are read. -/
def maxLength : Nat := 2097152

/-- Why a body holds no request. -/
inductive Fault where
  | mediaType
  | tooLong
  | text (e : Execution.RequestText.Error)
deriving Inhabited

def Fault.message : Fault → String
  | mediaType => "Expected request with `Content-Type: application/json`"
  | tooLong => "Failed to buffer the request body: length limit exceeded"
  | text .malformed => "Failed to parse the request body as JSON"
  | text e => "Failed to deserialize the JSON body into the target type: " ++ e.message

/-- Is the body announced as JSON? -/
def isJson (r : Request) : Bool :=
  match r.visibleHeader? "content-type" with
  | some s => MediaType.isJson s
  | none => false

/-- Is a list longer than `n`? Only as much of it is looked at. -/
def longerThan : (n : Nat) → List UInt8 → Bool
  | _, [] => false
  | 0, _ :: _ => true
  | n + 1, _ :: rest => longerThan n rest

/-- The request in a body. -/
def read (r : Request) : Except Fault Execution.Request :=
  if ¬isJson r then .error .mediaType
  else if longerThan maxLength r.body then .error .tooLong
  else (Execution.RequestText.ofBytes r.body).mapError .text

end TenantGate.Http.Body
