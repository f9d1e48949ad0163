/-
Hexadecimal digits in either case. What is read as a number are its
digits, each in upper or in lower case, and nothing else
(`read?_eq_some_iff`). The induction is from the last digit, since that is
the one that a division by sixteen splits off.
-/
import Mathlib.Data.List.Induction
import TenantGate.Text.Hex

namespace TenantGate.Text.Hex

theorem value?_eq_none_of_wide {c : Char} (wide : 128 ≤ c.toNat) : value? c = none := by
  have nat : ∀ a b : Char, a ≤ b → a.toNat ≤ b.toNat := fun _ _ h => h
  have beyond : ∀ b : Char, b.toNat < 128 → ¬ c ≤ b := by
    intro b small le
    have := nat _ _ le
    omega
  simp [value?, beyond '9' (by decide), beyond 'f' (by decide), beyond 'F' (by decide)]

theorem toLower_of_wide {c : Char} (wide : 128 ≤ c.toNat) : c.toLower = c := by
  unfold Char.toLower
  rw [dif_neg]
  rintro ⟨-, le⟩
  have narrow : c.toNat ≤ 'Z'.toNat := le
  have : 'Z'.toNat = 90 := rfl
  omega

/-- A digit in either case is the one that is written, in lower case. -/
theorem value?_eq_some_iff {c : Char} {n : Nat} :
    value? c = some n ↔ n < 16 ∧ c.toLower = digit n := by
  by_cases small : n < 16
  case neg => exact ⟨fun h => absurd (value?_lt h) small, fun h => absurd h.1 small⟩
  by_cases narrow : c.toNat < 128
  · have all : ∀ m < 128, ∀ k < 16,
        value? (Char.ofNat m) = some k ↔ (Char.ofNat m).toLower = digit k := by
      decide +kernel
    have here := all c.toNat narrow n small
    rw [Char.ofNat_toNat] at here
    rw [here, and_iff_right small]
  · have digits : ∀ k < 16, (digit k).toNat < 128 := by decide
    rw [value?_eq_none_of_wide (by omega), toLower_of_wide (by omega)]
    refine iff_of_false nofun ?_
    rintro ⟨-, rfl⟩
    exact narrow (digits n small)

/-- The digits of a number, in either case, are read as it, and nothing
else is. -/
theorem read?_eq_some_iff {cs : List Char} {n : Nat} :
    read? cs = some n ↔ n < bound cs.length ∧ cs.map Char.toLower = padded digit cs.length n := by
  induction cs using List.reverseRecOn generalizing n with
  | nil =>
      simp [read?, readFrom?, padded, bound]
      omega
  | append_singleton cs c ih =>
      have split : read? (cs ++ [c]) = some n
          ↔ ∃ m, read? cs = some m ∧ ∃ v, value? c = some v ∧ 16 * m + v = n := by
        rw [read?, readFrom?_append, ← read?, Option.bind_eq_some_iff]
        simp [readFrom?, Option.bind_eq_some_iff]
      rw [split, List.length_append, List.length_singleton, List.map_append, bound, padded]
      simp only [List.map_cons, List.map_nil]
      constructor
      · rintro ⟨m, read, v, value, rfl⟩
        obtain ⟨below, digits⟩ := ih.1 read
        obtain ⟨small, last⟩ := value?_eq_some_iff.1 value
        have quotient : (16 * m + v) / 16 = m := by omega
        have remainder : (16 * m + v) % 16 = v := by omega
        rw [quotient, remainder, digits, last]
        exact ⟨by omega, rfl⟩
      · rintro ⟨below, digits⟩
        obtain ⟨front, last⟩ := List.append_inj' digits rfl
        have value : value? c = some (n % 16) :=
          value?_eq_some_iff.2 ⟨by omega, by simpa using last⟩
        exact ⟨n / 16, ih.2 ⟨by omega, front⟩, n % 16, value, by omega⟩

end TenantGate.Text.Hex
