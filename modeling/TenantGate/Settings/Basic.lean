/-
The settings of a gateway: where it listens and how it is called, the
quota and the place of the windows, the rules of executions, the form of
its log, and the keys and agents of the tenants. Every setting but the
keys and agents has a default.

`check` accepts settings under which the gateway can work at all: a quota
without zeros and pages that may hold something.
-/
import TenantGate.Directory.Agents
import TenantGate.Execution.Request
import TenantGate.NetAddress

namespace TenantGate

namespace Settings

/-- The place where windows are kept. -/
inductive Storage where
  | memory
  | redis
deriving DecidableEq, Inhabited

def Storage.name : Storage → String
  | memory => "memory"
  | redis => "redis"

/-- The form of the log. -/
inductive LogFormat where
  | pretty
  | json
deriving DecidableEq, Inhabited

def LogFormat.name : LogFormat → String
  | pretty => "pretty"
  | json => "json"

structure Server where
  address : NetAddress
  serviceName : String
deriving DecidableEq, Inhabited

/-- The quota of a tenant, the place of the windows, and how long to wait
for it. -/
structure RateLimit where
  requests : Nat
  windowSeconds : Nat
  storage : Storage
  redisUrl : String
  connectTimeoutMs : Nat
  commandTimeoutMs : Nat
deriving DecidableEq, Inhabited

structure Logging where
  format : LogFormat
deriving DecidableEq, Inhabited

/-- A key and the tenant that is known by it. -/
structure ApiKey where
  key : String
  tenant : Uuid
deriving DecidableEq, Inhabited

end Settings

/-- All settings. -/
structure Settings where
  server : Settings.Server
  rateLimit : Settings.RateLimit
  execution : Execution.Settings
  logging : Settings.Logging
  apiKeys : List Settings.ApiKey
  agents : List Directory.Agent
deriving DecidableEq

namespace Settings

def Server.default : Server where
  address := .loopback 8000
  serviceName := "Mini Agent Platform"

def RateLimit.default : RateLimit where
  requests := 100
  windowSeconds := 60
  storage := .redis
  redisUrl := "redis://localhost:6379"
  connectTimeoutMs := 2000
  commandTimeoutMs := 1000

def Logging.default : Logging := ⟨.pretty⟩

/-- The settings where nothing is set. -/
def default : Settings where
  server := .default
  rateLimit := .default
  execution := .default
  logging := .default
  apiKeys := []
  agents := []

instance : Inhabited Settings := ⟨default⟩

/-- A setting that may not be zero. -/
def zero (name : String) : Fault := .config (name ++ " must be greater than zero")

/-- The first setting that is zero and may not be, if there is one. -/
def check (s : Settings) : Except Fault Unit :=
  if s.rateLimit.requests = 0 then .error (zero "rate_limit.requests")
  else if s.rateLimit.windowSeconds = 0 then .error (zero "rate_limit.window_seconds")
  else if s.execution.maxPageLimit = 0 then .error (zero "execution.max_page_limit")
  else .ok ()

/-- What is accepted. -/
theorem check_eq_ok_iff {s : Settings} :
    s.check = .ok () ↔ 0 < s.rateLimit.requests ∧ 0 < s.rateLimit.windowSeconds
      ∧ 0 < s.execution.maxPageLimit := by
  unfold check
  repeat' split
  all_goals simp
  all_goals omega

end Settings

end TenantGate
