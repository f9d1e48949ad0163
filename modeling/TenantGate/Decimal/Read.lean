/-
Decimal texts as floats, each rounded once to the nearest float.

A text is a sign, digits with a point in any place among them, and an
exponent after an `e`; at least one digit stands before the exponent.
The words for infinity and for what is no number are texts too, in any
case.
-/
import TenantGate.Decimal.Digits
import TenantGate.Text.Number

namespace TenantGate.Decimal

open Text.Number (digit?)

/-- The greatest magnitude. -/
def infinity : Float := 1.0 / 0.0

/-- What is no number. -/
def notANumber : Float := 0.0 / 0.0

/-- The float nearest to a decimal that is not negative. Far outside of
the floats' range nothing is computed. -/
def nearest (d : Digits) : Float :=
  if d.coefficient = 0 then 0.0
  else if 310 < d.order then infinity
  else if d.order < -330 then 0.0
  else Float.ofScientific d.coefficient (d.exponent < 0) d.exponent.natAbs

/-- Digits at the front of a text appended to a number, how many there
are, and the rest. -/
def takeDigits (n count : Nat) : List Char → Nat × Nat × List Char
  | [] => (n, count, [])
  | c :: cs =>
      match digit? c with
      | some d => takeDigits (10 * n + d) (count + 1) cs
      | none => (n, count, c :: cs)

/-- The sign at the front of a text, and the rest. -/
def takeSign : List Char → Bool × List Char
  | '-' :: cs => (true, cs)
  | '+' :: cs => (false, cs)
  | cs => (false, cs)

/-- The exponent that is the rest of a text; zero for an empty rest. -/
def readExponent? : List Char → Option Int
  | [] => some 0
  | c :: cs =>
      if c = 'e' ∨ c = 'E' then
        let (negative, cs) := takeSign cs
        match takeDigits 0 0 cs with
        | (n, count, []) => if count = 0 then none else some (if negative then -(n : Int) else n)
        | _ => none
      else none

/-- The number of a text without sign. -/
def readDigits? (cs : List Char) : Option Digits :=
  let (n, whole, rest) := takeDigits 0 0 cs
  let (n, fraction, rest) := match rest with
    | '.' :: rest => takeDigits n 0 rest
    | rest => (n, 0, rest)
  if whole + fraction = 0 then none
  else (readExponent? rest).map fun e => ⟨n, e - fraction⟩

/-- The float of a text without sign. -/
def readMagnitude? (cs : List Char) : Option Float :=
  let word := cs.map Char.toLower
  if word = "inf".toList ∨ word = "infinity".toList then some infinity
  else if word = "nan".toList then some notANumber
  else (readDigits? cs).map nearest

/-- The float of a text. -/
def read? (cs : List Char) : Option Float :=
  let (negative, rest) := takeSign cs
  (readMagnitude? rest).map fun x => if negative then -x else x

end TenantGate.Decimal
