/-
Where a shared store is: `redis://[user:password@]host[:port][/[db]]`.

A host must be there, a port is a number below 65536, and what stands
between the slashes after the host is empty or the number of a
database. Blanks around the text, a query and a fragment are ignored.
-/
import TenantGate.Text.Number

namespace TenantGate.Store

open Text

/-- A store's host, port and database. -/
structure Address where
  host : String
  port : Nat
  database : Int
deriving DecidableEq, Inhabited

namespace Address

/-- The port of a store that names none. -/
def defaultPort : Nat := 6379

/-- The characters that no host holds. -/
def notInHost : List Char :=
  ['\x00', '\t', '\n', '\r', ' ', '#', '/', ':', '<', '>', '?', '@', '[', '\\', ']', '^', '|']

/-- Blanks and control characters, which are dropped at both ends. -/
def isBlank (c : Char) : Bool := c.toNat ≤ 0x20

/-- The text without blanks at its ends. -/
def strip (cs : List Char) : List Char :=
  ((cs.dropWhile isBlank).reverse.dropWhile isBlank).reverse

/-- What follows the last `@`, if there is one. -/
def afterUser (cs : List Char) : List Char :=
  (cs.reverse.takeWhile (· ≠ '@')).reverse

/-- The number of a port; the default for an empty one. -/
def port? : List Char → Option Nat
  | [] => some defaultPort
  | '+' :: _ => none
  | cs => (Number.readNat 65535 cs).toOption

/-- A host and what follows it up to the first slash. -/
def hostAndPort? (cs : List Char) : Option (List Char × Nat) :=
  match cs with
  | '[' :: rest =>
      let inner := rest.takeWhile (· ≠ ']')
      match rest.dropWhile (· ≠ ']') with
      | [']'] => some (inner, defaultPort)
      | ']' :: ':' :: port => (port? port).map (inner, ·)
      | _ => none
  | _ =>
      let host := cs.takeWhile (· ≠ ':')
      if host.isEmpty ∨ host.any (notInHost.contains ·) then none
      else (port? ((cs.dropWhile (· ≠ ':')).drop 1)).map (host, ·)

/-- The number of a database; the first one for an empty path. -/
def database? (path : List Char) : Option Int :=
  let inner := (path.dropWhile (· = '/')).reverse.dropWhile (· = '/') |>.reverse
  if inner.isEmpty then some 0 else (Number.readInt Number.maxInt64 inner).toOption

/-- The address that a text names. -/
def ofText? (s : String) : Option Address :=
  let cs := strip s.toList
  let scheme := "redis://".toList
  if (cs.take 8).map Char.toLower = scheme then
    let rest := (cs.drop 8).takeWhile fun c => c ≠ '?' ∧ c ≠ '#'
    let authority := rest.takeWhile (· ≠ '/')
    match hostAndPort? (afterUser authority), database? (rest.dropWhile (· ≠ '/')) with
    | some (host, port), some database => some ⟨String.ofList host, port, database⟩
    | _, _ => none
  else none

end Address

end TenantGate.Store
