/-
The rules that a request must keep, and what the check says of them.

`Request.check` looks at four rules in an order. Here each of them is a
statement about the request alone, and each `check_of` lemma says which
fault the check names when a rule is the first that is broken. The rule
for the temperature also says that it is a number: the comparisons of the
check imply that, since nothing compares with what is no number, and no
infinity lies between two numbers (`isFinite_of_le`).
-/
import Mathlib.Logic.Basic
import TenantGate.Execution.Request

namespace TenantGate.Execution.Request

-- ========================================================== temperatures

/-- The order of two numbers is that of what they stand for. -/
theorem le_iff_unpack {a b : Float} :
    a ≤ b ↔ (a.toModel.unpack.le b.toModel.unpack) = true := by
  show a.le b = true ↔ _
  unfold Float.le
  exact decide_eq_true_iff

/-- What lies from zero to two is neither infinite nor no number. -/
theorem isFinite_of_le {t : Float} (low : 0.0 ≤ t) (high : t ≤ 2.0) : t.isFinite = true := by
  have zero : (0.0 : Float).toModel.unpack = .zero .positive := rfl
  obtain ⟨m, e, pos, two⟩ :
      ∃ m e pos, (2.0 : Float).toModel.unpack = .finite .positive m e pos := ⟨_, _, _, rfl⟩
  rw [le_iff_unpack, zero] at low
  rw [le_iff_unpack, two] at high
  show t.toModel.unpack.isFinite = true
  cases unpacked : t.toModel.unpack with
  | zero sign => rfl
  | finite sign m e pos => rfl
  | notANumber =>
      rw [unpacked] at low
      cases low
  | infinity sign =>
      rw [unpacked] at low high
      cases sign with
      | negative => cases low
      | positive => cases high

variable {r : Request} {s : Settings}

-- ============================================================= the rules

/-- The prompt has at least one character, and not too many. -/
def PromptFits (s : Settings) (r : Request) : Prop :=
  1 ≤ r.prompt.length ∧ r.prompt.length ≤ s.maxPromptLength

/-- The temperature is a number from zero to two. -/
def TemperatureInRange (r : Request) : Prop :=
  r.temperature.isFinite = true ∧ 0.0 ≤ r.temperature ∧ r.temperature ≤ 2.0

/-- If a number of tokens is named, it is one that may be asked for. -/
def TokensInRange (r : Request) : Prop :=
  ∀ tokens, r.maxTokens = some tokens → 1 ≤ tokens ∧ tokens ≤ 4096

theorem temperatureOk_iff : temperatureOk r.temperature = true ↔ r.TemperatureInRange := by
  unfold temperatureOk TemperatureInRange
  rw [Bool.and_eq_true, decide_eq_true_eq, decide_eq_true_eq]
  exact ⟨fun h => ⟨isFinite_of_le h.1 h.2, h⟩, And.right⟩

theorem tokensOk_iff {tokens : Nat} : tokensOk tokens = true ↔ 1 ≤ tokens ∧ tokens ≤ 4096 := by
  unfold tokensOk tokenCeiling
  rw [Bool.and_eq_true, decide_eq_true_eq, decide_eq_true_eq]

theorem promptFits_iff :
    r.PromptFits s ↔ ¬ (r.promptLength = 0 ∨ s.maxPromptLength < r.promptLength) := by
  unfold PromptFits promptLength
  omega

-- ============================================================= the check

theorem check_of_prompt (broken : ¬ r.PromptFits s) : r.check s = .error (r.promptFault s) := by
  rw [promptFits_iff, not_not] at broken
  unfold check
  rw [if_pos broken]

section

variable (prompt : r.PromptFits s)

include prompt

theorem check_of_model (broken : r.model ∉ s.allowedModels) :
    r.check s = .error (r.modelFault s) := by
  unfold check
  rw [if_neg (promptFits_iff.1 prompt), if_pos broken]

variable (model : r.model ∈ s.allowedModels)

include model

theorem check_of_temperature (broken : ¬ r.TemperatureInRange) :
    r.check s = .error r.temperatureFault := by
  rw [← temperatureOk_iff] at broken
  unfold check
  rw [if_neg (promptFits_iff.1 prompt), if_neg (not_not_intro model), if_pos broken]

variable (temperature : r.TemperatureInRange)

include temperature

theorem check_of_tokens (broken : ¬ r.TokensInRange) :
    ∃ tokens, r.maxTokens = some tokens ∧ r.check s = .error (tokensFault tokens) := by
  unfold TokensInRange at broken
  unfold check
  rw [if_neg (promptFits_iff.1 prompt), if_neg (not_not_intro model),
    if_neg (not_not_intro (temperatureOk_iff.2 temperature))]
  cases named : r.maxTokens with
  | none =>
      rw [named] at broken
      exact absurd nofun broken
  | some tokens =>
      refine ⟨tokens, rfl, if_neg fun ok => broken fun n e => ?_⟩
      rw [named] at e
      cases e
      exact tokensOk_iff.1 ok

/-- Who keeps the rules is let through. -/
theorem check_eq_ok (tokens : r.TokensInRange) : r.check s = .ok () := by
  unfold check
  rw [if_neg (promptFits_iff.1 prompt), if_neg (not_not_intro model),
    if_neg (not_not_intro (temperatureOk_iff.2 temperature))]
  cases named : r.maxTokens with
  | none => rfl
  | some n => exact if_pos (tokensOk_iff.2 (tokens n named))

end

end TenantGate.Execution.Request
