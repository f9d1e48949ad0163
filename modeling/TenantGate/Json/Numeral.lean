/-
Numbers in JSON texts. A numeral is its sign and three runs of digits,
exactly as they stand in the text; what number it is, is another
question.

A whole number that fits 64 bits is that number, with or without a
sign. Anything else is a float. Its digits are collected in 64 bits: a
digit of the whole part that does not fit is dropped and counts as a
power of ten, and so are all after it, while the fraction ends at a
digit that does not fit. The collected number is rounded and then
scaled by powers of ten, each step rounded, so the last digits of a
float may differ from those of the nearest one.
-/
import TenantGate.Text.Number

namespace TenantGate.Json

/-- A character of a text, or a place where there is none. -/
abbrev Symbol := Option Char

/-- The runs of digits of a number, as values from 0 to 9. -/
structure Numeral where
  negative : Bool
  whole : List Nat
  fraction : Option (List Nat)
  /-- Is the exponent negative, and its digits. -/
  exponent : Option (Bool × List Nat)
deriving DecidableEq, Inhabited

/-- A number that was read. -/
inductive Number where
  | int (n : Int)
  | float (x : Float)
deriving Inhabited

namespace Numeral

open Text.Number (digit?)

/-- The digits at the start of a text, after `acc` in reverse. -/
def digitsOnto (acc : List Nat) : List Symbol → List Nat × List Symbol
  | some c :: rest =>
      match digit? c with
      | some d => digitsOnto (d :: acc) rest
      | none => (acc.reverse, some c :: rest)
  | rest => (acc.reverse, rest)

/-- The digits at the start of a text and what follows them. -/
def digits (s : List Symbol) : List Nat × List Symbol := digitsOnto [] s

/-- The whole part: a zero alone, or digits that start with none. -/
def scanWhole (s : List Symbol) : Option (List Nat × List Symbol) :=
  match digits s with
  | ([], _) => none
  | (0 :: _ :: _, _) => none
  | r => some r

/-- The fraction, if a point follows; a point without digits is an
error. -/
def scanFraction : List Symbol → Option (Option (List Nat) × List Symbol)
  | some '.' :: rest =>
      match digits rest with
      | ([], _) => none
      | (ds, rest) => some (some ds, rest)
  | rest => some (none, rest)

/-- The sign of an exponent. -/
def scanSign : List Symbol → Bool × List Symbol
  | some '-' :: rest => (true, rest)
  | some '+' :: rest => (false, rest)
  | rest => (false, rest)

/-- The exponent, if an `e` follows; one without digits is an error. -/
def scanExponent : List Symbol → Option (Option (Bool × List Nat) × List Symbol)
  | some c :: rest =>
      if c = 'e' ∨ c = 'E' then
        let (negative, rest) := scanSign rest
        match digits rest with
        | ([], _) => none
        | (ds, rest) => some (some (negative, ds), rest)
      else some (none, some c :: rest)
  | rest => some (none, rest)

/-- The sign in front, which only a minus is. -/
def scanMinus : List Symbol → Bool × List Symbol
  | some '-' :: rest => (true, rest)
  | rest => (false, rest)

/-- The numeral at the start of a text and what follows it. -/
def scan (s : List Symbol) : Option (Numeral × List Symbol) := do
  let (negative, s) := scanMinus s
  let (whole, s) ← scanWhole s
  let (fraction, s) ← scanFraction s
  let (exponent, s) ← scanExponent s
  return (⟨negative, whole, fraction, exponent⟩, s)

-- ========================================================= the number

/-- Collects digits of the whole part: the number so far and how many
digits were dropped. -/
def collectWhole : (sum dropped : Nat) → List Nat → Nat × Nat
  | sum, dropped, [] => (sum, dropped)
  | sum, dropped, d :: ds =>
      if dropped = 0 ∧ 10 * sum + d < 0x10000000000000000 then collectWhole (10 * sum + d) 0 ds
      else collectWhole sum (dropped + 1) ds

/-- Collects digits of the fraction: the number so far and how many of
its digits are in it. -/
def collectFraction : (sum taken : Nat) → List Nat → Nat × Nat
  | sum, taken, [] => (sum, taken)
  | sum, taken, d :: ds =>
      if 10 * sum + d < 0x10000000000000000 then collectFraction (10 * sum + d) (taken + 1) ds
      else (sum, taken)

/-- The number of an exponent's digits, none if it does not fit 32 bits
with a sign. -/
def collectExponent? : (sum : Nat) → List Nat → Option Nat
  | sum, [] => some sum
  | sum, d :: ds => if 10 * sum + d < 0x80000000 then collectExponent? (10 * sum + d) ds else none

/-- A power of ten of at most 308, rounded. -/
def tenTo (n : Nat) : Float := Float.ofScientific 1 false n

/-- Scales a float by a power of ten, in steps of 308 where the power is
very small; none if the result is too great. -/
def scale? (x : Float) (exponent : Int) : Option Float :=
  if 0 ≤ exponent then
    if exponent ≤ 308 then
      let y := x * tenTo exponent.toNat
      if y.isInf then none else some y
    else if x == 0.0 then some x
    else none
  else if -308 ≤ exponent then some (x / tenTo (-exponent).toNat)
  else if x == 0.0 then some x
  else scale? (x / tenTo 308) (exponent + 308)
termination_by exponent.natAbs
decreasing_by omega

/-- A magnitude with its sign. -/
def signed (negative : Bool) (x : Float) : Float := if negative then -x else x

/-- The float of collected digits; none if it is too great. -/
def float? (negative : Bool) (sum : Nat) (shift : Int) (exponent : Option (Bool × List Nat)) :
    Option Float :=
  let scaled := match exponent with
    | none => scale? (Float.ofNat sum) shift
    | some (down, ds) =>
        match collectExponent? 0 ds with
        | some e => scale? (Float.ofNat sum) (if down then shift - e else shift + e)
        | none => if sum = 0 ∨ down then some 0.0 else none
  scaled.map (signed negative)

/-- The number of a whole numeral whose digits fit. -/
def whole? (negative : Bool) (sum : Nat) : Number :=
  if negative then
    if sum = 0 ∨ 0x8000000000000000 < sum then .float (-Float.ofNat sum) else .int (-(sum : Int))
  else .int sum

/-- The number of a numeral; none if it is too great for a float. -/
def value? (n : Numeral) : Option Number :=
  let (sum, dropped) := collectWhole 0 0 n.whole
  match n.fraction, n.exponent with
  | none, none =>
      if dropped = 0 then some (whole? n.negative sum)
      else (float? n.negative sum dropped none).map .float
  | none, e => (float? n.negative sum dropped e).map .float
  | some ds, e =>
      let (sum, taken) := collectFraction sum 0 ds
      (float? n.negative sum ((dropped : Int) - taken) e).map .float

-- ============================================================= length

theorem length_digitsOnto_le (acc : List Nat) (s : List Symbol) :
    (digitsOnto acc s).2.length ≤ s.length := by
  induction s generalizing acc with
  | nil => simp [digitsOnto]
  | cons c s ih =>
    cases c with
    | none => simp [digitsOnto]
    | some c =>
      simp only [digitsOnto]
      split
      · exact Nat.le_succ_of_le (ih _)
      · simp

theorem length_digits_le (s : List Symbol) : (digits s).2.length ≤ s.length :=
  length_digitsOnto_le [] s

theorem length_digitsOnto_lt {acc : List Nat} {s : List Symbol}
    (h : (digitsOnto acc s).1.length ≠ acc.length) :
    (digitsOnto acc s).2.length < s.length := by
  cases s with
  | nil => simp [digitsOnto] at h
  | cons c s =>
    cases c with
    | none => simp [digitsOnto] at h
    | some c =>
      simp only [digitsOnto] at h ⊢
      split
      · exact Nat.lt_succ_of_le (length_digitsOnto_le _ _)
      · next hd => simp [hd] at h

theorem length_scanWhole_lt {s rest : List Symbol} {ds : List Nat}
    (h : scanWhole s = some (ds, rest)) : rest.length < s.length := by
  have key : ∀ {ds rest}, digits s = (ds, rest) → ds ≠ [] → rest.length < s.length := by
    intro ds rest e hne
    have lt := @length_digitsOnto_lt [] s
    rw [← digits, e] at lt
    exact lt (by simpa using hne)
  unfold scanWhole at h
  split at h
  · simp at h
  · simp at h
  · next hne _ =>
    rw [Option.some.injEq] at h
    refine key h ?_
    rintro rfl
    exact hne _ h

theorem length_scanFraction_le {s rest : List Symbol} {f : Option (List Nat)}
    (h : scanFraction s = some (f, rest)) : rest.length ≤ s.length := by
  unfold scanFraction at h
  split at h
  · next s' =>
    split at h
    · simp at h
    · next hd =>
      simp only [Option.some.injEq, Prod.mk.injEq] at h
      obtain ⟨-, rfl⟩ := h
      have := length_digits_le s'
      simp only [hd] at this
      simp only [List.length_cons]
      omega
  · simp only [Option.some.injEq, Prod.mk.injEq] at h
    simp [h.2]

theorem length_scanSign_le (s : List Symbol) : (scanSign s).2.length ≤ s.length := by
  unfold scanSign
  split <;> simp

theorem length_scanMinus_le (s : List Symbol) : (scanMinus s).2.length ≤ s.length := by
  unfold scanMinus
  split <;> simp

theorem length_scanExponent_le {s rest : List Symbol} {e : Option (Bool × List Nat)}
    (h : scanExponent s = some (e, rest)) : rest.length ≤ s.length := by
  unfold scanExponent at h
  split at h
  · next c s' =>
    split at h
    · simp only at h
      split at h
      · simp at h
      · next hd =>
        simp only [Option.some.injEq, Prod.mk.injEq] at h
        obtain ⟨-, rfl⟩ := h
        have h₁ := length_digits_le (scanSign s').2
        have h₂ := length_scanSign_le s'
        simp only [hd] at h₁
        simp only [List.length_cons]
        omega
    · simp only [Option.some.injEq, Prod.mk.injEq] at h
      simp [← h.2]
  · simp only [Option.some.injEq, Prod.mk.injEq] at h
    simp [h.2]

/-- A numeral takes at least one character. -/
theorem length_scan_lt {s rest : List Symbol} {n : Numeral}
    (h : scan s = some (n, rest)) : rest.length < s.length := by
  simp only [scan, bind, Option.bind_eq_some_iff, pure, Option.some.injEq,
    Prod.mk.injEq] at h
  obtain ⟨⟨ds, r₁⟩, h₁, ⟨f, r₂⟩, h₂, ⟨e, r₃⟩, h₃, -, rfl⟩ := h
  have := length_scanMinus_le s
  have := length_scanWhole_lt h₁
  have := length_scanFraction_le h₂
  have := length_scanExponent_le h₃
  simp only at *
  omega

end Numeral

end TenantGate.Json
