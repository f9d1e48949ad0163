/-
Hexadecimal digits. A number below `bound count` is written with exactly
`count` lower-case digits, most significant first; a text of digits in
either case is read back as a number.
-/
namespace TenantGate.Text.Hex

/-- The lower-case digit of a value below sixteen. -/
def digit (n : Nat) : Char :=
  if n < 10 then Char.ofNat (48 + n) else Char.ofNat (87 + n)

/-- The upper-case digit of a value below sixteen. -/
def upperDigit (n : Nat) : Char :=
  if n < 10 then Char.ofNat (48 + n) else Char.ofNat (55 + n)

/-- The value of a digit of either case. -/
def value? (c : Char) : Option Nat :=
  if '0' ≤ c ∧ c ≤ '9' then some (c.toNat - 48)
  else if 'a' ≤ c ∧ c ≤ 'f' then some (c.toNat - 87)
  else if 'A' ≤ c ∧ c ≤ 'F' then some (c.toNat - 55)
  else none

/-- The last `count` digits of `n`, most significant first, each value
written by `write`. -/
def padded (write : Nat → Char) : (count n : Nat) → List Char
  | 0, _ => []
  | count + 1, n => padded write count (n / 16) ++ [write (n % 16)]

/-- How many numbers are written with `count` digits. -/
def bound : (count : Nat) → Nat
  | 0 => 1
  | count + 1 => 16 * bound count

/-- The digits of `n` without leading zeros, at least one. -/
def minimal (write : Nat → Char) (n : Nat) : List Char :=
  if n < 16 then [write n] else minimal write (n / 16) ++ [write (n % 16)]
termination_by n
decreasing_by omega

/-- The number that a list of digits spells after `start`. -/
def readFrom? (start : Nat) : List Char → Option Nat
  | [] => some start
  | c :: cs => (value? c).bind fun v => readFrom? (16 * start + v) cs

/-- The number that a list of digits spells. -/
def read? (cs : List Char) : Option Nat := readFrom? 0 cs

-- ============================================================= facts

theorem value?_digit {n : Nat} (h : n < 16) : value? (digit n) = some n := by
  have all : ∀ m : Fin 16, value? (digit m.1) = some m.1 := by decide
  exact all ⟨n, h⟩

theorem value?_lt {c : Char} {n : Nat} (h : value? c = some n) : n < 16 := by
  unfold value? at h
  have nat : ∀ a b : Char, a ≤ b → a.toNat ≤ b.toNat := fun _ _ h => h
  split at h
  · next h' =>
    have := nat _ _ h'.2
    simp only [Option.some.injEq] at h
    have e : '9'.toNat = 57 := rfl
    omega
  · split at h
    · next h' =>
      have := nat _ _ h'.2
      simp only [Option.some.injEq] at h
      have e : 'f'.toNat = 102 := rfl
      omega
    · split at h
      · next h' =>
        have := nat _ _ h'.2
        simp only [Option.some.injEq] at h
        have e : 'F'.toNat = 70 := rfl
        omega
      · simp at h

@[simp] theorem length_padded (write : Nat → Char) (count n : Nat) :
    (padded write count n).length = count := by
  induction count generalizing n with
  | zero => rfl
  | succ count ih => simp [padded, ih]

theorem readFrom?_append (start : Nat) (xs ys : List Char) :
    readFrom? start (xs ++ ys) = (readFrom? start xs).bind (readFrom? · ys) := by
  induction xs generalizing start with
  | nil => rfl
  | cons x xs ih =>
    simp only [List.cons_append, readFrom?]
    cases value? x with
    | none => rfl
    | some v => exact ih _

/-- What is written with enough digits is read back. -/
theorem readFrom?_padded {count n : Nat} (start : Nat) (h : n < bound count) :
    readFrom? start (padded digit count n) = some (bound count * start + n) := by
  induction count generalizing n with
  | zero =>
    have : n = 0 := by
      simp only [bound] at h
      omega
    simp [padded, readFrom?, bound, this]
  | succ count ih =>
    rw [bound] at h
    have hlt : n / 16 < bound count := Nat.div_lt_of_lt_mul h
    rw [padded, readFrom?_append, ih hlt, Option.bind_some]
    simp only [readFrom?, value?_digit (Nat.mod_lt n (by decide)), Option.bind_some,
      Option.some.injEq, bound]
    rw [Nat.mul_add, ← Nat.mul_assoc]
    omega

theorem read?_padded {count n : Nat} (h : n < bound count) :
    read? (padded digit count n) = some n := by
  rw [read?, readFrom?_padded 0 h]
  simp

end TenantGate.Text.Hex
