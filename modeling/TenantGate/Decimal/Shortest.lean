/-
The shortest decimal that reads back as a given binary number.

A finite float is `mantissa * 2 ^ exponent`, and the reals that are
rounded to it form an interval around it. The digits are found by
trying 1, 2, … 17 digits: on the grid of that many digits only the two
neighbours of the number need to be tested, and the first grid with a
point inside the interval wins. Everything is exact in natural numbers.
-/
import TenantGate.Decimal.Digits

namespace TenantGate.Decimal

/-- The magnitude of a finite float. -/
structure Magnitude where
  mantissa : Nat
  exponent : Int
  /-- Is the next float below only half as far away as the next above? -/
  narrow : Bool
deriving DecidableEq

namespace Magnitude

/-- The magnitude in the bits of a finite float. -/
def ofBits (bits : UInt64) : Magnitude :=
  let field : Nat := bits.toNat / 0x10000000000000 % 0x800
  let fraction : Nat := bits.toNat % 0x10000000000000
  if field = 0 then ⟨fraction, -1074, false⟩
  else ⟨fraction + 0x10000000000000, (field : Int) - 1075, fraction = 0 ∧ 1 < field⟩

/-- A quarter of the mantissa's unit is `numerator / denominator`. -/
def numerator (m : Magnitude) : Nat := Nat.pow 2 (m.exponent - 2).toNat

def denominator (m : Magnitude) : Nat := Nat.pow 2 (2 - m.exponent).toNat

/-- Twice the bounds of the interval, in quarters of the unit: the lower
one, the number itself, the upper one. -/
def lower (m : Magnitude) : Nat := 4 * m.mantissa - if m.narrow then 1 else 2

def centre (m : Magnitude) : Nat := 4 * m.mantissa

def upper (m : Magnitude) : Nat := 4 * m.mantissa + 2

/-- A point of the grid of step `10 ^ k`, made whole for comparison. -/
def gridSide (m : Magnitude) (k : Int) (c : Nat) : Nat :=
  c * Nat.pow 10 k.toNat * m.denominator

/-- A number of quarters, made whole in the same way. -/
def quarterSide (m : Magnitude) (k : Int) (quarters : Nat) : Nat :=
  quarters * m.numerator * Nat.pow 10 (-k).toNat

/-- Is `c * 10 ^ k` read back as this number? The ends of the interval
are, if the mantissa is even. -/
def reads (m : Magnitude) (k : Int) (c : Nat) : Bool :=
  let g := m.gridSide k c
  if m.mantissa % 2 = 0 then
    m.quarterSide k m.lower ≤ g && g ≤ m.quarterSide k m.upper
  else
    m.quarterSide k m.lower < g && g < m.quarterSide k m.upper

/-- The power of ten of the number's first digit. -/
def order (m : Magnitude) : Int :=
  ((m.centre * m.numerator * Nat.pow 10 400 / m.denominator).repr.length : Int) - 401

/-- The point of the grid with `n` digits that reads back and is nearer,
if there is one; of two equally near the even one. -/
def onGrid? (m : Magnitude) (n : Nat) : Option Digits :=
  let k := m.order - n + 1
  let centre := m.quarterSide k m.centre
  let below := centre / (Nat.pow 10 k.toNat * m.denominator)
  let downGap := centre - m.gridSide k below
  let upGap := m.gridSide k (below + 1) - centre
  let pick (c : Nat) : Option Digits := some ⟨c, k⟩
  match m.reads k below, m.reads k (below + 1) with
  | true, true =>
      if downGap < upGap ∨ (downGap = upGap ∧ below % 2 = 0) then pick below
      else pick (below + 1)
  | true, false => pick below
  | false, true => pick (below + 1)
  | false, false => none

/-- The fewest digits that read back; zero for zero. -/
def shortest (m : Magnitude) : Digits :=
  if m.mantissa = 0 then ⟨0, 0⟩
  else
    match (List.range 17).findSome? fun i => m.onGrid? (i + 1) with
    | some d => d.trim
    | none => ⟨0, 0⟩

end Magnitude

/-- Is the sign of a float set? It is for negative zero too. -/
def isNegative (x : Float) : Bool := 0x8000000000000000 ≤ x.toBits.toNat

/-- The fewest digits that read back as the magnitude of a finite float. -/
def shortest (x : Float) : Digits := (Magnitude.ofBits x.toBits).shortest

/-- The text of a finite float. -/
def Layout.writeFloat (l : Layout) (x : Float) : String :=
  l.write (isNegative x) (shortest x)

end TenantGate.Decimal
