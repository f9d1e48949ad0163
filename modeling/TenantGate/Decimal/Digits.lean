/-
Decimal numbers as a coefficient and a power of ten, and how their
digits are laid out as text. A layout says which numbers are written
without an exponent and whether a whole number keeps a point; the
digits themselves are the same in every layout.
-/
namespace TenantGate.Decimal

/-- The number `coefficient * 10 ^ exponent`. -/
structure Digits where
  coefficient : Nat
  exponent : Int
deriving DecidableEq, Inhabited

namespace Digits

/-- The same number without zeros at the end of the coefficient. -/
def trim (d : Digits) : Digits :=
  if d.coefficient ≠ 0 ∧ d.coefficient % 10 = 0 then
    trim ⟨d.coefficient / 10, d.exponent + 1⟩
  else d
termination_by d.coefficient
decreasing_by omega

/-- The digits of the coefficient. -/
def text (d : Digits) : List Char := d.coefficient.repr.toList

/-- The power of ten of the first digit. -/
def order (d : Digits) : Int := d.text.length + d.exponent - 1

end Digits

/-- How the digits of a number become text. -/
structure Layout where
  /-- The orders of the least and greatest number that is written without
  an exponent; every number if there are none. -/
  positional : Option (Int × Int)
  /-- Does a number without a fraction end in `.0`? -/
  pointed : Bool
  /-- The least number of digits of an exponent. -/
  exponentDigits : Nat
deriving DecidableEq

namespace Layout

/-- The digits with a point, and zeros where the digits do not reach it. -/
def positionalText (l : Layout) (d : Digits) : List Char :=
  let ds := d.text
  let point : Int := ds.length + d.exponent
  if 0 ≤ d.exponent then
    ds ++ List.replicate d.exponent.toNat '0' ++ if l.pointed then ['.', '0'] else []
  else if 0 < point then
    ds.take point.toNat ++ '.' :: ds.drop point.toNat
  else
    '0' :: '.' :: (List.replicate (-point).toNat '0' ++ ds)

/-- The digits with a point after the first, and the order after an `e`. -/
def exponentText (l : Layout) (d : Digits) : List Char :=
  let ds := d.text
  let order := d.order.natAbs.repr.toList
  ds.take 1 ++ (if ds.length = 1 then [] else '.' :: ds.drop 1)
    ++ 'e' :: (if d.order < 0 then '-' else '+')
    :: (List.replicate (l.exponentDigits - order.length) '0' ++ order)

/-- Is a number of this order written without an exponent? -/
def isPositional (l : Layout) (order : Int) : Bool :=
  match l.positional with
  | none => true
  | some (least, greatest) => least ≤ order && order ≤ greatest

/-- The text of a number, with its sign in front. -/
def write (l : Layout) (negative : Bool) (d : Digits) : String :=
  let body := if l.isPositional d.order then l.positionalText d else l.exponentText d
  String.ofList (if negative then '-' :: body else body)

end Layout

end TenantGate.Decimal
