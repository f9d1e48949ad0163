/-
What a tenant asks an agent to do, and the rules that a request must
keep. The rules are looked at in a fixed order, and the first that is
broken names the fault.
-/
import TenantGate.Fault

namespace TenantGate.Execution

/-- What is allowed in requests and in the pages of a history. -/
structure Settings where
  allowedModels : List String
  maxPromptLength : Nat
  defaultPageLimit : Nat
  maxPageLimit : Nat
deriving DecidableEq

namespace Settings

def default : Settings where
  allowedModels := ["gpt-5", "gpt-4o-mini", "gpt-3.5-turbo", "claude-4-opus",
    "claude-4.5-sonnet", "gemini-2.5 pro"]
  maxPromptLength := 10000
  defaultPageLimit := 20
  maxPageLimit := 100

instance : Inhabited Settings := ⟨default⟩

end Settings

/-- A task for an agent. -/
structure Request where
  prompt : String
  model : String
  temperature : Float
  maxTokens : Option Nat
deriving Inhabited

namespace Request

/-- The temperature of a request that names none. -/
def defaultTemperature : Float := 0.7

/-- The most tokens that a request may ask for. -/
def tokenCeiling : Nat := 4096

/-- The number of characters of the prompt. -/
def promptLength (r : Request) : Nat := r.prompt.length

def promptFault (r : Request) (s : Settings) : Fault :=
  .invalid ("prompt must be between 1 and " ++ toString s.maxPromptLength ++ " characters")
    (.object [("field", "prompt"), ("length", .nat r.promptLength)])

def modelFault (r : Request) (s : Settings) : Fault :=
  .validation "INVALID_MODEL" "The specified model is not supported"
    (.object [("provided_model", r.model), ("allowed_models", .strings s.allowedModels)])

def temperatureFault (r : Request) : Fault :=
  .invalid "temperature must be between 0.0 and 2.0"
    (.object [("field", "temperature"), ("value", .float r.temperature)])

def tokensFault (tokens : Nat) : Fault :=
  .invalid ("max_tokens must be between 1 and " ++ toString tokenCeiling)
    (.object [("field", "max_tokens"), ("value", .nat tokens)])

/-- Is the temperature from zero to two? What is no number is not. -/
def temperatureOk (t : Float) : Bool := 0.0 ≤ t && t ≤ 2.0

/-- Is the number of tokens one that may be asked for? -/
def tokensOk (tokens : Nat) : Bool := 1 ≤ tokens && tokens ≤ tokenCeiling

/-- The first rule that a request breaks, if it breaks one. -/
def check (r : Request) (s : Settings) : Except Fault Unit :=
  if r.promptLength = 0 ∨ s.maxPromptLength < r.promptLength then .error (r.promptFault s)
  else if r.model ∉ s.allowedModels then .error (r.modelFault s)
  else if ¬temperatureOk r.temperature then .error r.temperatureFault
  else
    match r.maxTokens with
    | none => .ok ()
    | some tokens => if tokensOk tokens then .ok () else .error (tokensFault tokens)

end Request

end TenantGate.Execution
