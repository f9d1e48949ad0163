/-
What a gateway is made of when it starts, and what can go wrong then:
the place of the windows cannot be opened, or the address cannot be
listened on.
-/
import TenantGate.Gateway
import TenantGate.Settings.Basic
import TenantGate.Store.Client

namespace TenantGate

open Limit (Limiter)

/-- A limiter with the quota of the settings. -/
def Settings.RateLimit.limiter {σ : Type} (backend : Limit.Backend σ) (store : σ)
    (s : RateLimit) : Except Limit.Error (Limiter σ) :=
  (Limit.Quota.ofCounts s.requests s.windowSeconds).map fun quota => ⟨backend, quota, store⟩

/-- The gateway of the settings, before its first request. -/
def Gateway.ofSettings {σ : Type} (limiter : Limiter σ) (s : Settings) : Gateway σ where
  service :=
    { limiter, agents := .ofList s.agents, history := .empty, provider := .simulated
      settings := s.execution }
  keys := .ofList (s.apiKeys.map fun k => (k.key, k.tenant))
  name := s.server.serviceName

namespace Startup

/-- What a gateway finds around it: a store, and addresses that are in
use. -/
structure Network where
  store : Store.Server
  taken : NetAddress → Bool

/-- Why a gateway does not start. -/
inductive Failure where
  | limit (e : Limit.Error)
  | fault (e : Fault)

def Failure.message : Failure → String
  | limit e => e.message
  | fault e => e.message

/-- Opens the place of the windows. -/
def openStorage (net : Network) (s : Settings.RateLimit) : Except Limit.Error Unit :=
  match s.storage with
  | .memory => .ok ()
  | .redis => do
      let client ← Store.Client.ofAddress s.redisUrl
      (client.connect net.store).1

/-- Listens on an address. -/
def listen (net : Network) (a : NetAddress) : Except Fault Unit :=
  if net.taken a then .error (.io "address already in use")
  else if a.isOwn then .ok ()
  else .error (.io "address not available")

/-- Starts a gateway: opens the place of the windows, then listens. -/
def start (net : Network) (s : Settings) : Except Failure Unit := do
  (openStorage net s.rateLimit).mapError .limit
  (listen net s.server.address).mapError .fault

/-- The limiter of accepted settings can be built. -/
theorem limiter_of_check {σ : Type} {backend : Limit.Backend σ} {store : σ} {s : Settings}
    (h : s.check = .ok ()) : ∃ l, s.rateLimit.limiter backend store = .ok l := by
  obtain ⟨hr, hw, -⟩ := Settings.check_eq_ok_iff.1 h
  refine ⟨⟨backend, ⟨s.rateLimit.requests, s.rateLimit.windowSeconds, hr, hw⟩, store⟩, ?_⟩
  have : Limit.Quota.ofCounts s.rateLimit.requests s.rateLimit.windowSeconds
      = .ok ⟨s.rateLimit.requests, s.rateLimit.windowSeconds, hr, hw⟩ :=
    Limit.Quota.ofCounts_eq_ok_iff.2 ⟨rfl, rfl⟩
  rw [Settings.RateLimit.limiter, this]
  rfl

end Startup

end TenantGate
