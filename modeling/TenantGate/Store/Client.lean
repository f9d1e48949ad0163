/-
One caller of a shared store. It opens a connection when it needs one,
probes it, and keeps it for later calls.

A connection that cannot be opened is not kept. An error that the store
answers, or an answer that makes no sense, leaves the connection as it
is; a connection that was closed, or on which nothing came back in
time, is let go, so that the next call opens a new one. Whatever goes
wrong, the store is unavailable: a fault never admits and never denies.
-/
import TenantGate.Limit.Backend
import TenantGate.Store.Address
import TenantGate.Store.Server

namespace TenantGate.Store

open Limit (Error Key)
open Window (Verdict)

/-- A caller, which may hold an open connection. -/
structure Client where
  connected : Bool
deriving DecidableEq, Inhabited

namespace Client

/-- A caller that has not called yet. -/
def start : Client := ⟨false⟩

/-- The error of a connection that could not be opened. -/
def cannotConnect (detail : String) : Error := .unavailable "redis_connection_failed" detail

/-- The error of a script call that failed. -/
def callFailed (detail : String) : Error := .unavailable "redis_error" detail

/-- The error of an address that names no store. -/
def badAddress : Error := .invalid "invalid Redis URL"

/-- A caller of the store at an address. -/
def ofAddress (url : String) : Except Error Client :=
  if (Address.ofText? url).isSome then .ok start else .error badAddress

/-- Opens and probes a connection. What the store answers to the greeting
does not matter, but it must come back in time on an open connection. -/
def openConnection (s : Server) : Except Error Unit × Server :=
  if s.reachable then
    let s := { s with accepted := s.accepted + 1 }
    let r : Except Error Unit := match s.greeting, s.askPing with
      | .silent, _ => .error (cannotConnect "connection timed out")
      | .close, _ => .error (cannotConnect "connection closed")
      | _, .timedOut => .error (cannotConnect "connection timed out")
      | _, .closed => .error (cannotConnect "connection closed")
      | _, .error text => .error (cannotConnect text)
      | _, .reply r =>
          if r.toText?.isSome then .ok () else .error (cannotConnect "not a text")
    (r, s)
  else (.error (cannotConnect "connection refused"), s)

/-- Makes sure that there is an open connection. -/
def connect (c : Client) (s : Server) : Except Error Unit × Client × Server :=
  if c.connected then (.ok (), c, s)
  else
    match openConnection s with
    | (.ok (), s) => (.ok (), ⟨true⟩, s)
    | (.error e, s) => (.error e, c, s)

/-- The outcome of a script call as a value, and whether the connection
is still good. -/
def settle {α : Type} (decode : Reply → Option α) : Outcome → Except Error α × Bool
  | .reply r =>
      match decode r with
      | some a => (.ok a, true)
      | none => (.error (callFailed "unexpected reply"), true)
  | .error text => (.error (callFailed text), true)
  | .closed => (.error (callFailed "connection closed"), false)
  | .timedOut => (.error (callFailed "command timed out"), false)

/-- Runs a script on the connection, which is opened if need be. -/
def call {α : Type} (run : SortedSets → Reply × SortedSets) (decode : Reply → Option α)
    (c : Client) (s : Server) : Except Error α × Client × Server :=
  match c.connect s with
  | (.error e, c, s) => (.error e, c, s)
  | (.ok (), _, s) =>
      let (outcome, s) := s.askScript run
      let (r, good) := settle decode outcome
      (r, ⟨good⟩, s)

/-- The last 32 bits of a number that is not negative, and zero for one
that is. -/
def toCount (n : Int) : Nat := n.toNat % 0x100000000

/-- What three numbers say: admitted if the first is one. -/
def toVerdict : Int × Int × Int → Verdict
  | (allowed, remaining, retryAfter) =>
      if allowed = 1 then .admitted (toCount remaining) else .deny retryAfter.toNat

/-- Admits and records a request if there is room. -/
def check (key : Key) (limit seconds : Nat) (c : Client) (s : Server) :
    Except Error Verdict × Client × Server :=
  c.call (Script.consume key.text limit seconds) (fun r => r.toTriple?.map toVerdict) s

/-- Counts the room. -/
def peek (key : Key) (limit seconds : Nat) (c : Client) (s : Server) :
    Except Error Nat × Client × Server :=
  c.call (Script.remaining key.text limit seconds) (fun r => r.toInt?.map toCount) s

/-- Lets the connection go. -/
def close (_ : Client) : Client := ⟨false⟩

/-- A shared store as a backend for one caller. -/
def backend : Limit.Backend (Client × Server) where
  check key limit seconds s := s.1.check key limit seconds s.2
  peek key limit seconds s := s.1.peek key limit seconds s.2
  close s := (s.1.close, s.2)

end Client

end TenantGate.Store
