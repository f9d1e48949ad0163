/-
The records of what was executed, for all tenants in one list. A tenant
sees its own records, newest first, in pages: `list` skips `offset` of
them and shows at most `limit`.

A record's identifier and time are given from outside, so that what is
here depends on its input alone.
-/
import TenantGate.Fault
import TenantGate.Uuid.Basic

namespace TenantGate.Execution

/-- The identifier and the time of a new record. -/
structure Stamp where
  id : String
  time : String
deriving DecidableEq, Inhabited

/-- What is to be recorded. -/
structure Draft where
  tenant : Uuid
  agent : Uuid
  agentName : String
  prompt : String
  model : String
  response : String
deriving DecidableEq, Inhabited

/-- What was executed, and when. -/
structure Record extends Draft where
  stamp : Stamp
deriving DecidableEq, Inhabited

/-- A part of a tenant's records, newest first. -/
structure Page where
  items : List Record
  total : Nat
  limit : Nat
  offset : Nat
  hasMore : Bool
deriving DecidableEq, Inhabited

/-- The records, oldest first. A store with a fault does nothing but
answer with it. -/
structure History where
  records : List Record
  fault : Option Fault

namespace History

def empty : History := ⟨[], none⟩

instance : Inhabited History := ⟨empty⟩

/-- A store that is out of order. -/
def broken (e : Fault) : History := ⟨[], some e⟩

/-- A tenant's records, newest first. -/
def ofTenant (tenant : Uuid) (h : History) : List Record :=
  h.records.reverse.filter fun r => r.tenant = tenant

/-- Adds a record. -/
def append (stamp : Stamp) (d : Draft) (h : History) : Except Fault Record × History :=
  match h.fault with
  | some e => (.error e, h)
  | none =>
      let r : Record := { d with stamp }
      (.ok r, { h with records := h.records ++ [r] })

/-- The page of at most `limit` records after the first `offset`. -/
def page (tenant : Uuid) (limit offset : Nat) (h : History) : Page :=
  let owned := h.ofTenant tenant
  let items := (owned.drop offset).take limit
  { items, total := owned.length, limit, offset
    hasMore := offset + items.length < owned.length }

/-- The same page, if the store is in order. -/
def list (tenant : Uuid) (limit offset : Nat) (h : History) : Except Fault Page :=
  match h.fault with
  | some e => .error e
  | none => .ok (h.page tenant limit offset)

end History

end TenantGate.Execution
