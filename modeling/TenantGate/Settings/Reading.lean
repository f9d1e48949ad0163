/-
Settings from a tree of values.

A section is an object, or a list of its settings in their order. What
is not there has its default, and names that mean nothing are passed
over. How strictly names and values are taken is a matter of `Rules`:
`exact` takes each value as what it is, `lenient` takes what can be meant
by it, as people write settings by hand and in the environment.
-/
import TenantGate.Decimal.Shortest
import TenantGate.Settings.Basic
import TenantGate.Text.Number

namespace TenantGate.Settings

/-- The size of a number that is not negative. -/
inductive Width where
  | word32
  | word64
deriving DecidableEq

/-- The greatest number of a width. -/
def Width.bound : Width → Nat
  | word32 => 0xFFFFFFFF
  | word64 => 0xFFFFFFFFFFFFFFFF

/-- How names and values are taken. -/
structure Rules where
  /-- A name in the form in which it is compared. -/
  name : String → String
  /-- May a list hold more than the settings of its section? -/
  surplus : Bool
  count : Width → Json → Option Nat
  text : Json → Option String
  /-- The name of one of several choices. -/
  choice : Json → Option String

-- ====================================================== two sets of rules

/-- Lower case. One character beyond ASCII has a lower case in ASCII: the
sign of the unit kelvin. -/
def lower (s : String) : String :=
  s.map fun c => if c = '\u212a' then 'k' else c.toLower

namespace Rules

/-- A number in range. -/
def exactCount (w : Width) : Json → Option Nat
  | .int n => if 0 ≤ n ∧ n ≤ w.bound then some n.toNat else none
  | _ => none

def exactText : Json → Option String
  | .string s => some s
  | _ => none

/-- A choice is a string, or an object whose one name has no value. -/
def exactChoice : Json → Option String
  | .string s => some s
  | .object [(name, .null)] => some name
  | _ => none

/-- Every value is what it is. -/
def exact : Rules := ⟨id, false, exactCount, exactText, exactChoice⟩

/-- A float rounded to a whole number, halves away from zero. A number
below zero or beyond 64 bits counts as the end of that range, and what is
no number counts as zero; what is left must fit the width. -/
def rounded (w : Width) (x : Float) : Option Nat :=
  let n := x.round.toUInt64.toNat
  if n ≤ w.bound then some n else none

/-- A number in words: yes is one and no is zero. -/
def spelled (w : Width) (s : String) : Option Nat :=
  let word := lower s
  if word ∈ ["true", "on", "yes"] then some 1
  else if word ∈ ["false", "off", "no"] then some 0
  else (Text.Number.readNat w.bound s.toList).toOption

def lenientCount (w : Width) : Json → Option Nat
  | .float x => rounded w x
  | .bool b => some b.toNat
  | .string s => spelled w s
  | v => exactCount w v

/-- Floats in text: always without an exponent, and without a fraction
where there is none. -/
def plainFloats : Decimal.Layout := ⟨none, false, 0⟩

/-- The text of a float, finite or not. -/
def floatText (x : Float) : String :=
  if x.isFinite then plainFloats.writeFloat x
  else if x.isNaN then "NaN"
  else if x < 0.0 then "-inf" else "inf"

def lenientText : Json → Option String
  | .string s => some s
  | .int n => some (toString n)
  | .float x => some (floatText x)
  | .bool b => some (if b then "true" else "false")
  | _ => none

/-- A choice is a string in any case, or an object of one name. -/
def lenientChoice : Json → Option String
  | .string s => some (lower s)
  | .object [(name, _)] => some (lower name)
  | _ => none

/-- Values are taken for what they can mean. -/
def lenient : Rules := ⟨lower, true, lenientCount, lenientText, lenientChoice⟩

-- ================================================================ values

variable (r : Rules)

/-- The settings of a section, each by its place and its name; of several
under one name the last counts. -/
def fields? (size : Nat) : Json → Option (Nat → String → Option Json)
  | .object ms => some fun _ name =>
      (ms.reverse.find? fun m => r.name m.1 = name).map Prod.snd
  | .array vs =>
      if r.surplus ∨ vs.length ≤ size then some fun place _ => vs[place]? else none
  | _ => none

/-- The value of a setting that has a default. -/
def orDefault {α : Type} (read : Json → Option α) (default : α) : Option Json → Option α
  | some v => read v
  | none => some default

def list {α : Type} (read : Json → Option α) : Json → Option (List α)
  | .array vs => vs.mapM read
  | _ => none

def id? (v : Json) : Option Uuid := (r.text v).bind Uuid.ofText?

def address? (v : Json) : Option NetAddress := (r.text v).bind NetAddress.ofText?

def storage? (v : Json) : Option Storage :=
  (r.choice v).bind fun s => [Storage.memory, .redis].find? fun c => c.name = s

def logFormat? (v : Json) : Option LogFormat :=
  (r.choice v).bind fun s => [LogFormat.pretty, .json].find? fun c => c.name = s

-- ============================================================== sections

def server? (v : Json) : Option Server := do
  let get ← r.fields? 2 v
  let d := Server.default
  return {
    address := ← orDefault r.address? d.address (get 0 "http_addr")
    serviceName := ← orDefault r.text d.serviceName (get 1 "service_name") }

def rateLimit? (v : Json) : Option RateLimit := do
  let get ← r.fields? 6 v
  let d := RateLimit.default
  return {
    requests := ← orDefault (r.count .word32) d.requests (get 0 "requests")
    windowSeconds := ← orDefault (r.count .word64) d.windowSeconds (get 1 "window_seconds")
    storage := ← orDefault r.storage? d.storage (get 2 "backend")
    redisUrl := ← orDefault r.text d.redisUrl (get 3 "redis_url")
    connectTimeoutMs :=
      ← orDefault (r.count .word64) d.connectTimeoutMs (get 4 "connect_timeout_ms")
    commandTimeoutMs :=
      ← orDefault (r.count .word64) d.commandTimeoutMs (get 5 "command_timeout_ms") }

def execution? (v : Json) : Option Execution.Settings := do
  let get ← r.fields? 4 v
  let d := Execution.Settings.default
  return {
    allowedModels := ← orDefault (list r.text) d.allowedModels (get 0 "allowed_models")
    maxPromptLength :=
      ← orDefault (r.count .word64) d.maxPromptLength (get 1 "max_prompt_length")
    defaultPageLimit :=
      ← orDefault (r.count .word64) d.defaultPageLimit (get 2 "default_page_limit")
    maxPageLimit := ← orDefault (r.count .word64) d.maxPageLimit (get 3 "max_page_limit") }

def logging? (v : Json) : Option Logging := do
  let get ← r.fields? 1 v
  return { format := ← orDefault r.logFormat? Logging.default.format (get 0 "format") }

/-- A key and its tenant; neither has a default. -/
def apiKey? (v : Json) : Option ApiKey := do
  let get ← r.fields? 2 v
  return { key := ← r.text (← get 0 "key"), tenant := ← r.id? (← get 1 "tenant_id") }

/-- An agent; only its tools have a default. -/
def agent? (v : Json) : Option Directory.Agent := do
  let get ← r.fields? 5 v
  return {
    id := ← r.id? (← get 0 "id")
    tenant := ← r.id? (← get 1 "tenant_id")
    name := ← r.text (← get 2 "name")
    role := ← r.text (← get 3 "role")
    tools := ← orDefault (list r.text) [] (get 4 "tools") }

end Rules

/-- The settings in a tree of values. -/
def read? (r : Rules) (v : Json) : Option Settings := do
  let get ← r.fields? 6 v
  return {
    server := ← Rules.orDefault r.server? .default (get 0 "server")
    rateLimit := ← Rules.orDefault r.rateLimit? .default (get 1 "rate_limit")
    execution := ← Rules.orDefault r.execution? .default (get 2 "execution")
    logging := ← Rules.orDefault r.logging? .default (get 3 "logging")
    apiKeys := ← Rules.orDefault (Rules.list r.apiKey?) [] (get 4 "api_keys")
    agents := ← Rules.orDefault (Rules.list r.agent?) [] (get 5 "agents") }

end TenantGate.Settings
