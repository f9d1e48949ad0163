/-
What arrives over HTTP: a method, a target, headers and a body. The
target is a path with a query, or a full address that has one.
-/
namespace TenantGate.Http

/-- A request as it arrives. -/
structure Request where
  method : String
  target : String
  headers : List (String × String)
  body : List UInt8
deriving Inhabited

namespace Request

/-- The characters of a name in lower case. -/
def lower (s : String) : List Char := s.toList.map Char.toLower

/-- The value of the first header of a name, which is given in lower
case. -/
def header? (name : String) (r : Request) : Option String :=
  (r.headers.find? fun h => lower h.1 = name.toList).map Prod.snd

/-- Does a header value hold nothing but visible characters, spaces and
tabs? -/
def isVisible (s : String) : Bool :=
  s.toList.all fun c => (0x20 ≤ c.toNat && c.toNat < 0x7f) || c = '\t'

/-- The value of the first header of a name, if all of it is visible. -/
def visibleHeader? (name : String) (r : Request) : Option String :=
  (r.header? name).filter isVisible

/-- What follows a scheme and its `://`. -/
def afterScheme? : List Char → Option (List Char)
  | ':' :: '/' :: '/' :: rest => some rest
  | c :: rest => if c = '/' ∨ c = '?' ∨ c = '#' then none else afterScheme? rest
  | [] => none

/-- The target without scheme, host and fragment. -/
def pathAndQuery (r : Request) : List Char :=
  let whole := r.target.toList.takeWhile (· ≠ '#')
  match whole with
  | '/' :: _ => whole
  | _ =>
      match afterScheme? whole with
      | some rest =>
          match rest.dropWhile fun c => c ≠ '/' ∧ c ≠ '?' with
          | '/' :: path => '/' :: path
          | query => '/' :: query
      | none => []

/-- The path of the target. -/
def path (r : Request) : List Char := r.pathAndQuery.takeWhile (· ≠ '?')

/-- The query of the target, empty if there is none. -/
def query (r : Request) : List Char := (r.pathAndQuery.dropWhile (· ≠ '?')).drop 1

end Request

end TenantGate.Http
