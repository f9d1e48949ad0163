/-
The store as those who call it meet it: it may refuse connections, and
each phase of a conversation may be answered properly, not at all, by
closing the connection, by an error or by any other reply. The sorted
sets change only when a script is properly answered.
-/
import TenantGate.Store.Script

namespace TenantGate.Store

/-- How a phase of a conversation is answered. -/
inductive Behaviour where
  /-- As the store should. -/
  | proper
  /-- Read and never answered. -/
  | silent
  /-- By closing the connection. -/
  | close
  | error (text : String)
  | reply (r : Reply)
deriving Inhabited

/-- What comes back in a phase. -/
inductive Outcome where
  | reply (r : Reply)
  | error (text : String)
  | closed
  | timedOut
deriving Inhabited

/-- The sets of a store, how it answers, and how many connections it has
accepted. -/
structure Server where
  sets : SortedSets
  /-- Are connections accepted? -/
  reachable : Bool
  greeting : Behaviour
  ping : Behaviour
  script : Behaviour
  accepted : Nat

namespace Server

/-- A store that answers everything properly. -/
def start (micros : Nat) : Server := ⟨.start micros, true, .proper, .proper, .proper, 0⟩

/-- What comes back where `proper` is the proper reply. -/
def outcome (proper : Reply) : Behaviour → Outcome
  | .proper => .reply proper
  | .silent => .timedOut
  | .close => .closed
  | .error text => .error text
  | .reply r => .reply r

/-- The answer to a ping on an open connection. -/
def askPing (s : Server) : Outcome := outcome (.status "PONG") s.ping

/-- The answer to a script on an open connection. -/
def askScript (run : SortedSets → Reply × SortedSets) (s : Server) : Outcome × Server :=
  match s.script with
  | .proper =>
      let (r, sets) := run s.sets
      (.reply r, { s with sets })
  | b => (outcome .nil b, s)

/-- Moves the store's clock forward. -/
def advance (micros : Nat) (s : Server) : Server := { s with sets := s.sets.advance micros }

end Server

end TenantGate.Store
