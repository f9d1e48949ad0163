/-
Settings as JSON values, every setting in its place.
-/
import TenantGate.Execution.Document
import TenantGate.Settings.Basic

namespace TenantGate.Settings

def Server.toJson (s : Server) : Json :=
  .object [("http_addr", s.address.text), ("service_name", s.serviceName)]

def RateLimit.toJson (s : RateLimit) : Json :=
  .object [("requests", .nat s.requests), ("window_seconds", .nat s.windowSeconds),
    ("backend", s.storage.name), ("redis_url", s.redisUrl),
    ("connect_timeout_ms", .nat s.connectTimeoutMs),
    ("command_timeout_ms", .nat s.commandTimeoutMs)]

def executionJson (s : Execution.Settings) : Json :=
  .object [("allowed_models", .strings s.allowedModels),
    ("max_prompt_length", .nat s.maxPromptLength),
    ("default_page_limit", .nat s.defaultPageLimit), ("max_page_limit", .nat s.maxPageLimit)]

def Logging.toJson (s : Logging) : Json := .object [("format", s.format.name)]

def ApiKey.toJson (k : ApiKey) : Json :=
  .object [("key", k.key), ("tenant_id", k.tenant.text)]

def toJson (s : Settings) : Json :=
  .object [("server", s.server.toJson), ("rate_limit", s.rateLimit.toJson),
    ("execution", executionJson s.execution), ("logging", s.logging.toJson),
    ("api_keys", .array (s.apiKeys.map ApiKey.toJson)),
    ("agents", .array (s.agents.map Directory.Agent.toJson))]

end TenantGate.Settings
