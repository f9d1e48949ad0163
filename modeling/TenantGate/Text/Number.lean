/-
Whole numbers in decimal digits, read from the left with a bound.

A plus sign may stand in front, a minus sign only where negative
numbers are allowed. The first character that is no digit and the first
digit that takes the number over its bound are faults, whichever comes
first; no digits at all is a fault of its own.
-/
namespace TenantGate.Text.Number

/-- Why a text is no number in range. -/
inductive Fault where
  | empty
  | invalidDigit
  | tooLarge
  | tooSmall
deriving DecidableEq, Inhabited

def Fault.message : Fault → String
  | empty => "cannot parse integer from empty string"
  | invalidDigit => "invalid digit found in string"
  | tooLarge => "number too large to fit in target type"
  | tooSmall => "number too small to fit in target type"

/-- The value of a decimal digit. -/
def digit? (c : Char) : Option Nat :=
  if '0' ≤ c ∧ c ≤ '9' then some (c.toNat - 48) else none

/-- Appends digits to the number `n`, which stays at most `bound`. -/
def extend (bound : Nat) (excess : Fault) (n : Nat) : List Char → Except Fault Nat
  | [] => .ok n
  | c :: cs =>
      match digit? c with
      | none => .error .invalidDigit
      | some d => if bound < 10 * n + d then .error excess else extend bound excess (10 * n + d) cs

/-- A number that is not negative and at most `bound`. -/
def readNat (bound : Nat) : List Char → Except Fault Nat
  | [] => .error .empty
  | ['+'] => .error .invalidDigit
  | '+' :: cs => extend bound .tooLarge 0 cs
  | cs => extend bound .tooLarge 0 cs

/-- A number from `-(bound + 1)` to `bound`. -/
def readInt (bound : Nat) : List Char → Except Fault Int
  | ['-'] => .error .invalidDigit
  | '-' :: cs => (extend (bound + 1) .tooSmall 0 cs).map fun n => -(n : Int)
  | cs => (readNat bound cs).map Int.ofNat

/-- The greatest signed number of 64 bits. -/
def maxInt64 : Nat := 0x7FFFFFFFFFFFFFFF

/-- A number of 64 bits with its sign. -/
def readInt64? (s : String) : Option Int := (readInt maxInt64 s.toList).toOption

end TenantGate.Text.Number
